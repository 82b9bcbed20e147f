import ImportDispatch.Proofs.Markup.Reading
/-!
# Elements

What is read from a document beyond its tags: which element is in which.  A tree of elements can be written as steps and
read back from the document of these steps (`Element.read_steps`).  Character data counts where it is all that an
element has in it; elsewhere it is the layout of the document.
-/
namespace ImportDispatch
namespace Markup

/-- An element with what is in it: nothing, character data, or elements, of which there is one at least. -/
inductive Element
  | empty (name : Text) (attributes : Attributes)
  | text (name : Text) (attributes : Attributes) (content : Text)
  | nested (name : Text) (attributes : Attributes) (first : Element) (others : List Element)
deriving Repr

/-! ## Writing -/

mutual
def Element.steps : Element → List Step
  | .empty name attributes => [.empty name attributes]
  | .text name attributes content => [.text name attributes content]
  | .nested name attributes first others =>
    .opening name attributes :: (first.steps ++ (stepsOfAll others ++ [.closing]))

def stepsOfAll : List Element → List Step
  | [] => []
  | element :: others => element.steps ++ stepsOfAll others
end

theorem stepsOfAll_eq_flatMap : ∀ elements : List Element, stepsOfAll elements = elements.flatMap Element.steps
  | [] => rfl
  | element :: others => by rw [stepsOfAll, stepsOfAll_eq_flatMap others, List.flatMap_cons]

def Element.Plain (element : Element) : Prop := ∀ step ∈ element.steps, step.Plain

mutual
/-- An element without its values and contents. -/
def Element.outline : Element → Element
  | .empty name attributes => .empty name (attributes.map fun a => (a.1, []))
  | .text name attributes _ => .text name (attributes.map fun a => (a.1, [])) []
  | .nested name attributes first others =>
    .nested name (attributes.map fun a => (a.1, [])) first.outline (outlinesOf others)

def outlinesOf : List Element → List Element
  | [] => []
  | element :: others => element.outline :: outlinesOf others
end

theorem outlinesOf_eq_map : ∀ elements : List Element, outlinesOf elements = elements.map Element.outline
  | [] => rfl
  | element :: others => by rw [outlinesOf, outlinesOf_eq_map others, List.map_cons]

/-! ## Names -/

def isNameStart (c : Char) : Bool := c.isAlpha || c == '_' || c == ':'

def isNameChar (c : Char) : Bool := isNameStart c || c.isDigit || c == '-' || c == '.'

/-- A name; of the letters that can be in one, those of ASCII. -/
def isTagName (name : Text) : Bool := name.head?.any isNameStart && name.all isNameChar

/-- The name of an element that a step begins, and the keys in it. -/
def Step.kind? : Step → Option (Text × List Text)
  | opening name attributes => some (name, attributes.map Prod.fst)
  | empty name attributes => some (name, attributes.map Prod.fst)
  | text name attributes _ => some (name, attributes.map Prod.fst)
  | closing => none

/-- The names are names, and no element has a key twice. -/
def WellNamed (steps : List Step) : Prop :=
  ∀ kind ∈ steps.filterMap Step.kind?, isTagName kind.1 = true ∧ (∀ key ∈ kind.2, isTagName key = true) ∧ kind.2.Nodup

instance : DecidablePred WellNamed := fun steps =>
  inferInstanceAs (Decidable (∀ kind ∈ steps.filterMap Step.kind?,
    isTagName kind.1 = true ∧ (∀ key ∈ kind.2, isTagName key = true) ∧ kind.2.Nodup))

theorem WellNamed.of_parts {steps first second : List Step} (hparts : ∀ step ∈ steps, step ∈ first ∨ step ∈ second)
    (hfirst : WellNamed first) (hsecond : WellNamed second) : WellNamed steps := by
  intro kind hkind
  obtain ⟨step, hstep, hkind⟩ := List.mem_filterMap.1 hkind
  rcases hparts step hstep with hpart | hpart
  · exact hfirst kind (List.mem_filterMap.2 ⟨step, hpart, hkind⟩)
  · exact hsecond kind (List.mem_filterMap.2 ⟨step, hpart, hkind⟩)

theorem wellNamed_flatMap {α : Type} {f : α → List Step} {l : List α} (h : ∀ a ∈ l, WellNamed (f a)) :
    WellNamed (l.flatMap f) := by
  intro kind hkind
  obtain ⟨step, hstep, hkind⟩ := List.mem_filterMap.1 hkind
  obtain ⟨a, ha, hstep⟩ := List.mem_flatMap.1 hstep
  exact h a ha kind (List.mem_filterMap.2 ⟨step, hstep, hkind⟩)

theorem not_isMark {c : Char} (h : isNameChar c = true) : isMark c = false := by
  rw [Bool.eq_false_iff]
  intro hmark
  have hmem : c ∈ "<>&/= \"".toList := by simpa [isMark] using hmark
  have hnone : ("<>&/= \"".toList.all fun mark => !isNameChar mark) = true := by decide
  have hc := List.all_eq_true.1 hnone c hmem
  rw [h] at hc
  cases hc

theorem isPlain_of_isTagName {name : Text} (h : isTagName name = true) : IsPlain name := by
  rw [isTagName, Bool.and_eq_true, List.all_eq_true] at h
  refine ⟨?_, fun c hc => not_isMark (h.2 c hc)⟩
  rintro rfl
  cases h.1

theorem WellNamed.plain {steps : List Step} (h : WellNamed steps) : ∀ step ∈ steps, step.Plain := by
  have hkind : ∀ step ∈ steps, ∀ {name : Text} {attributes : Attributes},
      step.kind? = some (name, attributes.map Prod.fst) → IsPlain name ∧ PlainKeys attributes := by
    intro step hstep name attributes hkind
    obtain ⟨hname, hkeys, -⟩ := h _ (List.mem_filterMap.2 ⟨step, hstep, hkind⟩)
    exact ⟨isPlain_of_isTagName hname, fun a ha => isPlain_of_isTagName (hkeys a.1 (List.mem_map_of_mem ha))⟩
  intro step hstep
  cases step with
  | opening name attributes => exact hkind _ hstep rfl
  | empty name attributes => exact hkind _ hstep rfl
  | text name attributes content => exact hkind _ hstep rfl
  | closing => trivial

/-! ## Reading -/

/-- An element that is open, and the elements before it inside the one around it. -/
structure OpenElement where
  name : Text
  attributes : Attributes
  before : List Element

/-- The elements that the tags make up, behind the siblings that have been read inside the innermost open element. -/
def nest : List OpenElement → List Element → List (Tag × Text) → Option (List Element)
  | [], siblings, [] => some siblings
  | opened, siblings, (.empty name attributes, _) :: rest => nest opened (siblings ++ [.empty name attributes]) rest
  | opened, siblings, (.opening name attributes, data) :: (.closing last, _) :: rest =>
    if last = name then nest opened (siblings ++ [.text name attributes data]) rest else none
  | opened, siblings, (.opening name attributes, _) :: rest => nest (⟨name, attributes, siblings⟩ :: opened) [] rest
  | ⟨name, attributes, before⟩ :: opened, first :: others, (.closing last, _) :: rest =>
    if last = name then nest opened (before ++ [.nested name attributes first others]) rest else none
  | _, _, _ => none

def Element.read (document : Text) : Option Element :=
  match (readTags document).bind (nest [] []) with
  | some [element] => some element
  | _ => none

/-- The first tag of an element closes nothing. -/
theorem Element.first_tag (element : Element) (names : List Text) (rest : List Step) :
    ∃ tag data more, tagsOf names (element.steps ++ rest) = (tag, data) :: more ∧ ∀ last, tag ≠ .closing last := by
  cases element with
  | empty name attributes => exact ⟨_, _, _, rfl, by simp⟩
  | text name attributes content => exact ⟨_, _, _, rfl, by simp⟩
  | nested name attributes first others => exact ⟨_, _, _, rfl, by simp⟩

mutual
/-- An element is read behind its siblings, and the reader goes on with the tags behind it. -/
theorem nest_element (opened : List OpenElement) (names : List Text) (rest : List Step) :
    ∀ (element : Element) (siblings : List Element),
      nest opened siblings (tagsOf names (element.steps ++ rest)) =
        nest opened (siblings ++ [element]) (tagsOf names rest)
  | .empty name attributes, siblings => by
    rw [Element.steps, List.singleton_append, tagsOf, nest]
  | .text name attributes content, siblings => by
    rw [Element.steps, List.singleton_append, tagsOf, nest, if_pos rfl]
  | .nested name attributes first others, siblings => by
    obtain ⟨tag, data, more, htags, htag⟩ := first.first_tag (name :: names) (stepsOfAll others ++ .closing :: rest)
    have hfirst := nest_element (⟨name, attributes, siblings⟩ :: opened) (name :: names)
      (stepsOfAll others ++ .closing :: rest) first []
    have hothers := nest_elements (⟨name, attributes, siblings⟩ :: opened) (name :: names) (.closing :: rest) others [first]
    have hsteps : (Element.nested name attributes first others).steps ++ rest =
        .opening name attributes :: (first.steps ++ (stepsOfAll others ++ .closing :: rest)) := by
      simp [Element.steps]
    rw [hsteps, tagsOf, nest, hfirst, List.nil_append, hothers, tagsOf, List.singleton_append, nest, if_pos rfl]
    -- an opening tag with the closing one right behind it would be read as a text element
    rintro last data' rest' hclosing
    rw [htags] at hclosing
    exact htag last (by cases hclosing; rfl)

theorem nest_elements (opened : List OpenElement) (names : List Text) (rest : List Step) :
    ∀ (elements siblings : List Element),
      nest opened siblings (tagsOf names (stepsOfAll elements ++ rest)) =
        nest opened (siblings ++ elements) (tagsOf names rest)
  | [], siblings => by rw [stepsOfAll, List.nil_append, List.append_nil]
  | element :: others, siblings => by
    rw [stepsOfAll, List.append_assoc, nest_element opened names _ element, nest_elements opened names rest others,
      List.append_assoc, List.singleton_append]
end

theorem nest_steps (element : Element) : nest [] [] (tagsOf [] element.steps) = some [element] := by
  have hread := nest_element [] [] [] element []
  rw [List.append_nil] at hread
  rw [hread]
  rfl

/-- **An element is read back from its document.** -/
theorem Element.read_steps {element : Element} (h : element.Plain) :
    Element.read (document element.steps) = some element := by
  unfold Element.read
  rw [readTags_document h, Option.bind_some, nest_steps]

end Markup
end ImportDispatch
