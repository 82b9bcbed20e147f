import ImportDispatch.Proofs.Markup.Conformance
import Mathlib.Data.Option.NAry
/-!
# Well-formed documents

A conforming reader rejects a document as a whole for one character that may not be in it.  The reader here knows as much
of markup as the documents use, and demands of it what the rules demand: contents and values are read as `content?` and
`value?` read them, names are names, no element has a key twice, and there is one element with nothing but white space
behind it.  A document of steps with proper names is accepted exactly if all texts in it are legal, and what is read is
the element with its texts made uniform (`element?_document`).
-/
namespace ImportDispatch
namespace Markup

open Text (splitBy)

/-! ## The reader -/

namespace Conforming

def attributes? : List Text → Option Attributes
  | [[]] => some []
  | front :: raw :: rest => (readKey front).bind fun key =>
    Option.map₂ (fun value others => (key, value) :: others) (value? raw) (attributes? rest)
  | _ => none

def named? (s : Text) : Option (Text × Attributes) :=
  (attributes? (splitBy (· == '"') (s.dropWhile (· != ' ')))).map fun attributes => (s.takeWhile (· != ' '), attributes)

def tag? (body : Text) : Option Tag :=
  if body.head? = some '/' then some (.closing body.tail)
  else if body.getLast? = some '/' then (named? body.dropLast).map fun (name, attributes) => .empty name attributes
  else (named? body).map fun (name, attributes) => .opening name attributes

def token? (piece : Text) : Option (Tag × Text) :=
  match splitBy (· == '>') piece with
  | [body, raw] => Option.map₂ Prod.mk (tag? body) (content? raw)
  | _ => none

def tags? (document : Text) : Option (List (Tag × Text)) :=
  match splitBy (· == '<') document with
  | [] :: pieces => pieces.mapM token?
  | _ => none

def EndsBlank (tags : List (Tag × Text)) : Prop :=
  ∀ last ∈ tags.getLast?, (last.2.all fun c => c == ' ' || isLayout c) = true

instance : DecidablePred EndsBlank := fun tags =>
  inferInstanceAs (Decidable (∀ last ∈ tags.getLast?, (last.2.all fun c => c == ' ' || isLayout c) = true))

def element? (document : Text) : Option Element :=
  match tags? document with
  | none => none
  | some tags =>
    match nest [] [] tags with
    | some [element] => if WellNamed element.steps ∧ EndsBlank tags then some element else none
    | _ => none

/-! ## Uniform texts -/

def uniformValues (attributes : Attributes) : Attributes := attributes.map fun a => (a.1, inLine a.2)

end Conforming

open Conforming

/-- Each value of a step is of one kind, and its content of another. -/
def Step.Each (value content : Text → Prop) : Step → Prop
  | opening _ attributes => ∀ a ∈ attributes, value a.2
  | empty _ attributes => ∀ a ∈ attributes, value a.2
  | text _ attributes s => (∀ a ∈ attributes, value a.2) ∧ content s
  | closing => True

instance {value content : Text → Prop} [DecidablePred value] [DecidablePred content] :
    DecidablePred (Step.Each value content)
  | .opening _ attributes => inferInstanceAs (Decidable (∀ a ∈ attributes, value a.2))
  | .empty _ attributes => inferInstanceAs (Decidable (∀ a ∈ attributes, value a.2))
  | .text _ _ _ => inferInstanceAs (Decidable (_ ∧ _))
  | .closing => inferInstanceAs (Decidable True)

def Step.uniform : Step → Step
  | opening name attributes => opening name (uniformValues attributes)
  | empty name attributes => empty name (uniformValues attributes)
  | text name attributes content => text name (uniformValues attributes) (lineEnds content)
  | closing => closing

def Tag.attributes : Tag → Attributes
  | opening _ attributes => attributes
  | empty _ attributes => attributes
  | closing _ => []

def Tag.uniform : Tag → Tag
  | opening name attributes => opening name (uniformValues attributes)
  | empty name attributes => empty name (uniformValues attributes)
  | closing name => closing name

mutual
def Element.uniform : Element → Element
  | .empty name attributes => .empty name (uniformValues attributes)
  | .text name attributes content => .text name (uniformValues attributes) (lineEnds content)
  | .nested name attributes first others => .nested name (uniformValues attributes) first.uniform (uniformAll others)

def uniformAll : List Element → List Element
  | [] => []
  | element :: others => element.uniform :: uniformAll others
end

mutual
theorem Element.steps_uniform : ∀ element : Element, element.uniform.steps = element.steps.map Step.uniform
  | .empty _ _ => rfl
  | .text _ _ _ => rfl
  | .nested name attributes first others => by
    rw [Element.uniform, Element.steps, Element.steps, first.steps_uniform, stepsOfAll_uniformAll others]
    simp only [List.map_cons, List.map_append, List.map_nil]
    rfl

theorem stepsOfAll_uniformAll : ∀ elements : List Element,
    stepsOfAll (uniformAll elements) = (stepsOfAll elements).map Step.uniform
  | [] => rfl
  | element :: others => by
    rw [uniformAll, stepsOfAll, stepsOfAll, List.map_append, element.steps_uniform, stepsOfAll_uniformAll others]
end

theorem wellNamed_uniform {steps : List Step} : WellNamed (steps.map Step.uniform) ↔ WellNamed steps := by
  have hkind : Step.kind? ∘ Step.uniform = Step.kind? := by
    have hkeys : ∀ attributes : Attributes, (uniformValues attributes).map Prod.fst = attributes.map Prod.fst :=
      fun attributes => by rw [uniformValues, List.map_map]; rfl
    funext step
    cases step <;> simp only [Function.comp_apply, Step.uniform, Step.kind?, hkeys]
  rw [WellNamed, List.filterMap_map, hkind]
  rfl

/-! ## What is read -/

namespace Conforming

theorem map₂_ite {α β γ : Type} (f : α → β → γ) (p q : Prop) [Decidable p] [Decidable q] (a : α) (b : β) :
    Option.map₂ f (if p then some a else none) (if q then some b else none) =
      if p ∧ q then some (f a b) else none := by
  by_cases hp : p
  · by_cases hq : q
    · rw [if_pos hp, if_pos hq, if_pos ⟨hp, hq⟩]
      rfl
    · have hboth : ¬(p ∧ q) := fun h => hq h.2
      rw [if_neg hq, if_neg hboth, Option.map₂_none_right]
  · have hboth : ¬(p ∧ q) := fun h => hp h.1
    rw [if_neg hp, if_neg hboth, Option.map₂_none_left]

theorem attributes?_attributesText : ∀ {attributes : Attributes}, PlainKeys attributes →
    attributes? (splitBy (· == '"') (attributesText attributes)) =
      if ∀ a ∈ attributes, IsLegal a.2 then some (uniformValues attributes) else none
  | [], _ => rfl
  | (key, value) :: others, h => by
    have hkey : IsPlain key := h _ List.mem_cons_self
    have ih := attributes?_attributesText fun a ha => h a (List.mem_cons_of_mem _ ha)
    have hfront : '"' ∉ ' ' :: key ++ ['='] := by
      rw [List.mem_append, List.mem_cons, not_or, not_or]
      exact ⟨⟨by decide, hkey.not_mem (by decide)⟩, by decide⟩
    rw [attributesText_cons, Text.splitBy_mark hfront,
      Text.splitBy_mark (not_mem_escapeAttribute (.inr (.inr rfl)) value), attributes?, readKey_plain hkey,
      Option.bind_some, value?_escapeAttribute, ih, map₂_ite]
    simp only [List.forall_mem_cons]
    rfl

theorem named?_plain {name : Text} (hname : IsPlain name) {attributes : Attributes} (hkeys : PlainKeys attributes) :
    named? (name ++ attributesText attributes) =
      if ∀ a ∈ attributes, IsLegal a.2 then some (name, uniformValues attributes) else none := by
  rw [named?, (span_named hname attributes).1, (span_named hname attributes).2, attributes?_attributesText hkeys]
  split_ifs <;> rfl

theorem tag?_body {tag : Tag} (h : tag.Plain) :
    tag? tag.body = if ∀ a ∈ tag.attributes, IsLegal a.2 then some tag.uniform else none := by
  unfold tag?
  cases tag with
  | closing name => rfl
  | opening name attributes =>
    rw [Tag.body, if_neg (head?_plain h.1 _), if_neg (getLast?_named h.1 attributes), named?_plain h.1 h.2,
      Tag.attributes]
    split_ifs <;> rfl
  | empty name attributes =>
    rw [Tag.body, List.append_assoc, if_neg (head?_plain h.1 _), ← List.append_assoc, if_pos List.getLast?_concat,
      List.dropLast_concat, named?_plain h.1 h.2, Tag.attributes]
    split_ifs <;> rfl

def LegalToken (token : Tag × Text) : Prop := (∀ a ∈ token.1.attributes, IsLegal a.2) ∧ IsLegal token.2

instance : DecidablePred LegalToken := fun token =>
  inferInstanceAs (Decidable ((∀ a ∈ token.1.attributes, IsLegal a.2) ∧ IsLegal token.2))

def uniformToken (token : Tag × Text) : Tag × Text := (token.1.uniform, lineEnds token.2)

theorem token?_plain {tag : Tag} (h : tag.Plain) (data : Text) :
    token? (tag.body ++ '>' :: escapeContent data) =
      if LegalToken (tag, data) then some (uniformToken (tag, data)) else none := by
  rw [token?, Text.splitBy_mark (not_mem_body (.inr rfl) h),
    Text.splitBy_of_not_mem (not_mem_escapeContent (.inr rfl) data)]
  dsimp only
  rw [tag?_body h, content?_escapeContent, map₂_ite]
  rfl

theorem mapM_map_eq_ite {α β γ : Type} {write : α → β} {read : β → Option γ} {p : α → Prop} [DecidablePred p]
    {f : α → γ} : ∀ {l : List α}, (∀ a ∈ l, read (write a) = if p a then some (f a) else none) →
      (l.map write).mapM read = if ∀ a ∈ l, p a then some (l.map f) else none
  | [], _ => rfl
  | a :: l, h => by
    have htail := mapM_map_eq_ite fun b hb => h b (List.mem_cons_of_mem a hb)
    have hcons : ((a :: l).map write).mapM read = Option.map₂ List.cons (read (write a)) ((l.map write).mapM read) := by
      rw [List.map_cons, List.mapM_cons]
      cases read (write a) <;> cases (l.map write).mapM read <;> rfl
    rw [hcons, h a List.mem_cons_self, htail, map₂_ite]
    simp only [List.forall_mem_cons]
    rfl

theorem tags?_tokens {tokens : List (Tag × Text)} (h : ∀ token ∈ tokens, token.1.Plain) :
    tags? (tokens.flatMap tokenText) =
      if ∀ token ∈ tokens, LegalToken token then some (tokens.map uniformToken) else none := by
  rw [tags?, splitBy_tokens h]
  exact mapM_map_eq_ite fun token htoken => token?_plain (h token htoken) token.2

/-! ## What the steps write -/

theorem legal_lead (opened : List Text) (steps : List Step) : IsLegal ('\n' :: lead opened steps) := by
  refine List.forall_mem_cons.2 ⟨by decide, fun c hc => ?_⟩
  rw [lead_blank opened steps c hc]
  decide

theorem lineEnds_lead (opened : List Text) (steps : List Step) :
    lineEnds ('\n' :: lead opened steps) = '\n' :: lead opened steps := by
  refine lineEnds_eq_self.2 (List.not_mem_cons_of_ne_of_not_mem (by decide) fun hmem => ?_)
  exact absurd (lead_blank opened steps _ hmem) (by decide)

theorem lead_uniform (opened : List Text) : ∀ steps : List Step, lead opened (steps.map Step.uniform) = lead opened steps
  | [] => rfl
  | .opening _ _ :: _ => by cases opened <;> rfl
  | .empty _ _ :: _ => by cases opened <;> rfl
  | .text _ _ _ :: _ => by cases opened <;> rfl
  | .closing :: rest => by
    cases opened with
    | nil => exact lead_uniform [] rest
    | cons => rfl

theorem closingTags_uniform : ∀ opened : List Text, (closingTags opened).map uniformToken = closingTags opened
  | [] => rfl
  | name :: outer => by
    rw [closingTags, List.map_cons, closingTags_uniform outer, uniformToken, lineEnds_lead]
    rfl

/-- The tags are read as those of the uniform steps: the layout of the document is uniform already. -/
theorem tagsOf_uniform (opened : List Text) (steps : List Step) :
    (tagsOf opened steps).map uniformToken = tagsOf opened (steps.map Step.uniform) := by
  fun_induction tagsOf opened steps with
  | case1 opened => rw [closingTags_uniform, List.map_nil, tagsOf]
  | case2 opened name attributes rest ih =>
    rw [List.map_cons, ih, uniformToken, lineEnds_lead, List.map_cons, Step.uniform, tagsOf, lead_uniform]
    rfl
  | case3 opened name attributes rest ih =>
    rw [List.map_cons, ih, uniformToken, lineEnds_lead, List.map_cons, Step.uniform, tagsOf, lead_uniform]
    rfl
  | case4 opened name attributes content rest ih =>
    rw [List.map_cons, List.map_cons, ih, uniformToken, uniformToken, lineEnds_lead, List.map_cons, Step.uniform, tagsOf,
      lead_uniform]
    rfl
  | case5 rest ih => rw [ih, List.map_cons, Step.uniform, tagsOf]
  | case6 name outer rest ih =>
    rw [List.map_cons, ih, uniformToken, lineEnds_lead, List.map_cons, Step.uniform, tagsOf, lead_uniform]
    rfl

theorem legal_closingTags : ∀ opened : List Text, ∀ token ∈ closingTags opened, LegalToken token
  | [] => by simp [closingTags]
  | name :: outer => by
    rw [closingTags, List.forall_mem_cons]
    exact ⟨⟨by simp [Tag.attributes], legal_lead outer []⟩, legal_closingTags outer⟩

theorem legal_tagsOf (opened : List Text) (steps : List Step) :
    (∀ token ∈ tagsOf opened steps, LegalToken token) ↔ ∀ step ∈ steps, step.Each IsLegal IsLegal := by
  have hclosing : ∀ name : Text, ∀ a ∈ (Tag.closing name).attributes, IsLegal a.2 := by simp [Tag.attributes]
  have hblank : ∀ {tag : Tag} (opened : List Text) (rest : List Step),
      LegalToken (tag, '\n' :: lead opened rest) ↔ ∀ a ∈ tag.attributes, IsLegal a.2 :=
    fun opened rest => and_iff_left (legal_lead opened rest)
  have hcons : ∀ (step : Step) (rest : List Step), (∀ s ∈ step :: rest, s.Each IsLegal IsLegal) ↔
      step.Each IsLegal IsLegal ∧ ∀ s ∈ rest, s.Each IsLegal IsLegal := fun _ _ => List.forall_mem_cons
  fun_induction tagsOf opened steps with
  | case1 opened => exact iff_of_true (legal_closingTags opened) (by simp)
  | case2 opened name attributes rest ih =>
    rw [List.forall_mem_cons, hcons]
    exact and_congr (hblank _ rest) ih
  | case3 opened name attributes rest ih =>
    rw [List.forall_mem_cons, hcons]
    exact and_congr (hblank _ rest) ih
  | case4 opened name attributes content rest ih =>
    rw [List.forall_mem_cons, List.forall_mem_cons, hcons]
    exact and_congr Iff.rfl ((and_iff_right ((hblank opened rest).2 (hclosing name))).trans ih)
  | case5 rest ih =>
    rw [hcons]
    exact ih.trans (and_iff_right trivial).symm
  | case6 name outer rest ih =>
    rw [List.forall_mem_cons, hcons]
    exact and_congr (iff_of_true ((hblank outer rest).2 (hclosing name)) trivial) ih

theorem EndsBlank.cons {token : Tag × Text} {tags : List (Tag × Text)} (htags : EndsBlank tags)
    (htoken : tags = [] → (token.2.all fun c => c == ' ' || isLayout c) = true) : EndsBlank (token :: tags) := by
  intro last hlast
  cases tags with
  | nil =>
    cases hlast
    exact htoken rfl
  | cons next tags => exact htags last hlast

theorem endsBlank_tagsOf (opened : List Text) (steps : List Step) : EndsBlank (tagsOf opened steps) := by
  have hlead : ∀ (opened : List Text) (steps : List Step),
      (('\n' :: lead opened steps).all fun c => c == ' ' || isLayout c) = true := fun opened steps => by
    rw [List.all_eq_true, List.forall_mem_cons]
    exact ⟨rfl, fun c hc => by rw [lead_blank opened steps c hc]; rfl⟩
  fun_induction tagsOf opened steps with
  | case1 opened =>
    induction opened with
    | nil => simp [EndsBlank, closingTags]
    | cons name outer ih => exact ih.cons fun _ => hlead outer []
  | case2 opened name attributes rest ih => exact ih.cons fun _ => hlead _ rest
  | case3 opened name attributes rest ih => exact ih.cons fun _ => hlead _ rest
  | case4 opened name attributes content rest ih => exact (ih.cons fun _ => hlead _ rest).cons (by simp)
  | case5 rest ih => exact ih
  | case6 name outer rest ih => exact ih.cons fun _ => hlead _ rest

theorem tags?_document {steps : List Step} (h : ∀ step ∈ steps, step.Plain) :
    tags? (document steps) =
      if ∀ step ∈ steps, step.Each IsLegal IsLegal then some (tagsOf [] (steps.map Step.uniform)) else none := by
  rw [document, write_eq, lead_nil, List.nil_append, tags?_tokens (plain_tagsOf (by simp) h), tagsOf_uniform]
  simp only [legal_tagsOf]

/-- **A document is accepted exactly if every character in its texts is legal**, and read with its texts made uniform. -/
theorem element?_document {element : Element} (h : WellNamed element.steps) :
    element? (document element.steps) =
      if ∀ step ∈ element.steps, step.Each IsLegal IsLegal then some element.uniform else none := by
  rw [element?, tags?_document h.plain, ← element.steps_uniform]
  split_ifs with hlegal
  · have hnamed : WellNamed element.uniform.steps := by
      rw [element.steps_uniform]
      exact wellNamed_uniform.2 h
    dsimp only
    rw [nest_steps]
    exact if_pos ⟨hnamed, endsBlank_tagsOf _ _⟩
  · rfl

end Conforming

/-! ## What is kept -/

theorem uniformValues_eq_self {attributes : Attributes} :
    uniformValues attributes = attributes ↔ ∀ a ∈ attributes, ∀ c ∈ a.2, isLayout c = false := by
  have hvalue : ∀ a : Text × Text, (a.1, inLine a.2) = a ↔ ∀ c ∈ a.2, isLayout c = false := fun a => by
    rw [Prod.ext_iff, and_iff_right rfl, inLine_eq_self]
  rw [uniformValues]
  conv => lhs; rhs; rw [← List.map_id attributes]
  rw [List.map_inj_left]
  exact forall₂_congr fun a _ => hvalue a

theorem Step.uniform_eq_self (step : Step) :
    step.uniform = step ↔ step.Each (∀ c ∈ ·, isLayout c = false) ('\r' ∉ ·) := by
  cases step with
  | opening name attributes => rw [uniform, opening.injEq, and_iff_right rfl, uniformValues_eq_self, Each]
  | empty name attributes => rw [uniform, empty.injEq, and_iff_right rfl, uniformValues_eq_self, Each]
  | text name attributes content =>
    rw [uniform, text.injEq, and_iff_right rfl, uniformValues_eq_self, lineEnds_eq_self, Each]
  | closing => exact iff_of_true rfl trivial

theorem Step.each_and {value value' content content' : Text → Prop} (step : Step) :
    step.Each (fun s => value s ∧ value' s) (fun s => content s ∧ content' s) ↔
      step.Each value content ∧ step.Each value' content' := by
  cases step with
  | opening name attributes => exact forall₂_and
  | empty name attributes => exact forall₂_and
  | text name attributes s => exact (and_congr_left' forall₂_and).trans and_and_and_comm
  | closing => exact (and_self_iff (a := True)).symm

mutual
theorem Element.uniform_eq_self : ∀ element : Element,
    element.uniform = element ↔ ∀ step ∈ element.steps, step.uniform = step
  | .empty name attributes => by
    rw [Element.uniform, Element.steps, List.forall_mem_singleton, Step.uniform, Element.empty.injEq, Step.empty.injEq]
  | .text name attributes content => by
    rw [Element.uniform, Element.steps, List.forall_mem_singleton, Step.uniform, Element.text.injEq, Step.text.injEq]
  | .nested name attributes first others => by
    rw [Element.uniform, Element.steps, Element.nested.injEq, List.forall_mem_cons, List.forall_mem_append,
      List.forall_mem_append, List.forall_mem_singleton, first.uniform_eq_self, uniformAll_eq_self others, Step.uniform,
      Step.uniform, Step.opening.injEq]
    tauto

theorem uniformAll_eq_self : ∀ elements : List Element,
    uniformAll elements = elements ↔ ∀ step ∈ stepsOfAll elements, step.uniform = step
  | [] => by simp [uniformAll, stepsOfAll]
  | element :: others => by
    rw [uniformAll, stepsOfAll, List.cons.injEq, List.forall_mem_append, element.uniform_eq_self, uniformAll_eq_self others]
end

/-- What a conforming reader makes of a document that was written for an element. -/
structure Element.IsReadFrom (element : Element) (document : Text) : Prop where
  read : element? document = if ∀ step ∈ element.steps, step.Each IsLegal IsLegal then some element.uniform else none
  kept : element? document = some element ↔ ∀ step ∈ element.steps, step.Each KeptValue KeptContent

theorem Element.isReadFrom {element : Element} (h : WellNamed element.steps) :
    element.IsReadFrom (document element.steps) where
  read := element?_document h
  kept := by
    have hkept : ∀ step : Step, step.Each KeptValue KeptContent ↔
        step.Each IsLegal IsLegal ∧ step.uniform = step := fun step => by
      rw [step.uniform_eq_self, ← step.each_and]
      rfl
    rw [element?_document h, Option.ite_none_right_eq_some, Option.some.injEq, element.uniform_eq_self, ← forall₂_and]
    exact forall₂_congr fun step _ => (hkept step).symm

end Markup
end ImportDispatch
