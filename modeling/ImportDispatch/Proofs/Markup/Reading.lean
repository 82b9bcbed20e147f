import ImportDispatch.Markup
import ImportDispatch.Proofs.Text.Pieces
/-!
# Reading markup

A reader that knows this much of markup: tags stand between angle brackets and character data behind them, the values of
attributes stand between quotes, and four entities stand for characters.  White space is left as it is.  From a document
it reads the tags that the steps ask for, with the values that they give (`readTags_document`): a value can hold any
characters, and no tag comes or goes for it.
-/
namespace ImportDispatch
namespace Markup

open Text (splitBy)

/-! ## The reader -/

def unescape : Text → Text
  | '&' :: 'a' :: 'm' :: 'p' :: ';' :: rest => '&' :: unescape rest
  | '&' :: 'l' :: 't' :: ';' :: rest => '<' :: unescape rest
  | '&' :: 'g' :: 't' :: ';' :: rest => '>' :: unescape rest
  | '&' :: 'q' :: 'u' :: 'o' :: 't' :: ';' :: rest => '"' :: unescape rest
  | c :: rest => c :: unescape rest
  | [] => []

inductive Tag
  | opening (name : Text) (attributes : Attributes)
  | empty (name : Text) (attributes : Attributes)
  | closing (name : Text)
deriving DecidableEq, Repr

/-- What is before the value of an attribute: a blank, the key and an equals sign. -/
def readKey (front : Text) : Option Text :=
  match splitBy (· == '=') front with
  | [' ' :: key, []] => some key
  | _ => none

/-- The attributes in the pieces between quotes: a key and a value in turn, and nothing behind the last value. -/
def readAttributes : List Text → Option Attributes
  | [[]] => some []
  | front :: value :: rest =>
    match readKey front, readAttributes rest with
    | some key, some others => some ((key, unescape value) :: others)
    | _, _ => none
  | _ => none

def readNamed (s : Text) : Option (Text × Attributes) :=
  (readAttributes (splitBy (· == '"') (s.dropWhile (· != ' ')))).map fun attributes =>
    (s.takeWhile (· != ' '), attributes)

def readTag (body : Text) : Option Tag :=
  if body.head? = some '/' then some (.closing body.tail)
  else if body.getLast? = some '/' then (readNamed body.dropLast).map fun (name, attributes) => .empty name attributes
  else (readNamed body).map fun (name, attributes) => .opening name attributes

/-- A tag and the character data behind it, from what is between one opening bracket and the next. -/
def readToken (piece : Text) : Option (Tag × Text) :=
  match splitBy (· == '>') piece with
  | [body, data] => (readTag body).map fun tag => (tag, unescape data)
  | _ => none

/-- The tags of a document, each with the character data behind it. -/
def readTags (document : Text) : Option (List (Tag × Text)) :=
  match splitBy (· == '<') document with
  | [] :: pieces => pieces.mapM readToken
  | _ => none

/-! ## Escapes -/

theorem unescape_cons {c : Char} (hc : c ≠ '&') (s : Text) : unescape (c :: s) = c :: unescape s := by
  rw [unescape] <;> rintro _ rfl <;> exact absurd rfl hc

theorem unescape_escapeContentChar (c : Char) (s : Text) : unescape (escapeContentChar c ++ s) = c :: unescape s := by
  unfold escapeContentChar
  by_cases hamp : c = '&'
  · rw [if_pos hamp, hamp]
    rfl
  rw [if_neg hamp]
  by_cases hlt : c = '<'
  · rw [if_pos hlt, hlt]
    rfl
  rw [if_neg hlt]
  by_cases hgt : c = '>'
  · rw [if_pos hgt, hgt]
    rfl
  rw [if_neg hgt]
  exact unescape_cons hamp s

theorem unescape_escapeAttributeChar (c : Char) (s : Text) :
    unescape (escapeAttributeChar c ++ s) = c :: unescape s := by
  unfold escapeAttributeChar
  by_cases hquote : c = '"'
  · rw [if_pos hquote, hquote]
    rfl
  · rw [if_neg hquote, unescape_escapeContentChar]

theorem unescape_flatMap {escape : Char → Text} (h : ∀ c s, unescape (escape c ++ s) = c :: unescape s) :
    ∀ s : Text, unescape (s.flatMap escape) = s
  | [] => rfl
  | c :: s => by rw [List.flatMap_cons, h, unescape_flatMap h s]

theorem unescape_escapeContent (s : Text) : unescape (escapeContent s) = s :=
  unescape_flatMap unescape_escapeContentChar s

theorem unescape_escapeAttribute (s : Text) : unescape (escapeAttribute s) = s :=
  unescape_flatMap unescape_escapeAttributeChar s

abbrev IsDelimiter (mark : Char) : Prop := mark = '<' ∨ mark = '>' ∨ mark = '"'

theorem not_mem_escapeContentChar {mark c : Char} (hmark : IsDelimiter mark) (hquote : mark = '"' → c ≠ '"') :
    mark ∉ escapeContentChar c := by
  unfold escapeContentChar
  split_ifs with hamp hlt hgt
  · rcases hmark with rfl | rfl | rfl <;> decide
  · rcases hmark with rfl | rfl | rfl <;> decide
  · rcases hmark with rfl | rfl | rfl <;> decide
  · intro h
    obtain rfl := List.mem_singleton.1 h
    rcases hmark with rfl | rfl | rfl
    · exact hlt rfl
    · exact hgt rfl
    · exact hquote rfl rfl

theorem not_mem_escapeContent {mark : Char} (hmark : mark = '<' ∨ mark = '>') (s : Text) : mark ∉ escapeContent s := by
  intro h
  obtain ⟨c, -, hc⟩ := List.mem_flatMap.1 h
  rcases hmark with rfl | rfl
  · exact not_mem_escapeContentChar (.inl rfl) (fun h => absurd h (by decide)) hc
  · exact not_mem_escapeContentChar (.inr (.inl rfl)) (fun h => absurd h (by decide)) hc

theorem not_mem_escapeAttribute {mark : Char} (hmark : IsDelimiter mark) (s : Text) : mark ∉ escapeAttribute s := by
  intro h
  obtain ⟨c, -, hc⟩ := List.mem_flatMap.1 h
  unfold escapeAttributeChar at hc
  split_ifs at hc with hquote
  · rcases hmark with rfl | rfl | rfl <;> exact absurd hc (by decide)
  · exact not_mem_escapeContentChar hmark (fun _ => hquote) hc

theorem escapeContent_blank {s : Text} (h : ∀ c ∈ s, c = ' ' ∨ c = '\n') : escapeContent s = s := by
  induction s with
  | nil => rfl
  | cons c s ih =>
    have hc : escapeContentChar c = [c] := by
      rcases h c List.mem_cons_self with rfl | rfl <;> rfl
    have hs : escapeContent s = s := ih fun d hd => h d (List.mem_cons_of_mem c hd)
    unfold escapeContent at hs ⊢
    rw [List.flatMap_cons, hc, hs, List.singleton_append]

/-! ## Tags -/

/-- A character that has a meaning inside a tag. -/
def isMark (c : Char) : Bool := "<>&/= \"".toList.elem c

/-- A name that can stand in a tag as it is. -/
def IsPlain (name : Text) : Prop := name ≠ [] ∧ ∀ c ∈ name, isMark c = false

instance (name : Text) : Decidable (IsPlain name) :=
  decidable_of_iff ((!name.isEmpty && name.all fun c => !isMark c) = true) (by simp [IsPlain])

theorem IsPlain.not_mem {name : Text} (h : IsPlain name) {mark : Char} (hmark : isMark mark = true) : mark ∉ name := by
  intro hmem
  rw [h.2 mark hmem] at hmark
  cases hmark

def PlainKeys (attributes : Attributes) : Prop := ∀ a ∈ attributes, IsPlain a.1

instance (attributes : Attributes) : Decidable (PlainKeys attributes) :=
  inferInstanceAs (Decidable (∀ a ∈ attributes, IsPlain a.1))

namespace Tag

/-- What is between the brackets. -/
def body : Tag → Text
  | opening name attributes => name ++ attributesText attributes
  | empty name attributes => name ++ attributesText attributes ++ ['/']
  | closing name => '/' :: name

def Plain : Tag → Prop
  | opening name attributes => IsPlain name ∧ PlainKeys attributes
  | empty name attributes => IsPlain name ∧ PlainKeys attributes
  | closing name => IsPlain name

end Tag

theorem attributesText_cons (key value : Text) (others : Attributes) :
    attributesText ((key, value) :: others) =
      (' ' :: key ++ ['=']) ++ '"' :: (escapeAttribute value ++ '"' :: attributesText others) := by
  simp [attributesText]

theorem readKey_plain {key : Text} (h : IsPlain key) : readKey (' ' :: key ++ ['=']) = some key := by
  have hblank : '=' ∉ ' ' :: key := by
    rw [List.mem_cons, not_or]
    exact ⟨by decide, h.not_mem (by decide)⟩
  unfold readKey
  rw [Text.splitBy_mark hblank]
  rfl

theorem readAttributes_attributesText : ∀ {attributes : Attributes}, PlainKeys attributes →
    readAttributes (splitBy (· == '"') (attributesText attributes)) = some attributes
  | [], _ => rfl
  | (key, value) :: others, h => by
    have hkey : IsPlain key := h _ List.mem_cons_self
    have ih := readAttributes_attributesText fun a ha => h a (List.mem_cons_of_mem _ ha)
    have hfront : '"' ∉ ' ' :: key ++ ['='] := by
      rw [List.mem_append, List.mem_cons, not_or, not_or]
      exact ⟨⟨by decide, hkey.not_mem (by decide)⟩, by decide⟩
    rw [attributesText_cons, Text.splitBy_mark hfront,
      Text.splitBy_mark (not_mem_escapeAttribute (.inr (.inr rfl)) value)]
    rw [readAttributes, readKey_plain hkey, ih, unescape_escapeAttribute]

/-- The name in front of the attributes ends at the first blank. -/
theorem span_named {name : Text} (hname : IsPlain name) (attributes : Attributes) :
    (name ++ attributesText attributes).takeWhile (· != ' ') = name ∧
      (name ++ attributesText attributes).dropWhile (· != ' ') = attributesText attributes := by
  have hall : ∀ c ∈ name, (c != ' ') = true := fun c hc => by
    simpa using ne_of_mem_of_not_mem hc (hname.not_mem (by decide))
  have hstop : (attributesText attributes).takeWhile (· != ' ') = [] ∧
      (attributesText attributes).dropWhile (· != ' ') = attributesText attributes := by
    cases attributes with
    | nil => exact ⟨rfl, rfl⟩
    | cons a others => exact ⟨rfl, rfl⟩
  rw [List.takeWhile_append_of_pos hall, List.dropWhile_append_of_pos hall, hstop.1, hstop.2, List.append_nil]
  exact ⟨rfl, rfl⟩

theorem readNamed_plain {name : Text} (hname : IsPlain name) {attributes : Attributes} (hkeys : PlainKeys attributes) :
    readNamed (name ++ attributesText attributes) = some (name, attributes) := by
  unfold readNamed
  rw [(span_named hname attributes).1, (span_named hname attributes).2, readAttributes_attributesText hkeys]
  rfl

theorem head?_plain {name : Text} (h : IsPlain name) (rest : Text) : (name ++ rest).head? ≠ some '/' := by
  intro hhead
  cases name with
  | nil => exact h.1 rfl
  | cons c name =>
    obtain rfl : c = '/' := Option.some.inj hhead
    have hmark : isMark '/' = true := by decide
    exact h.not_mem hmark List.mem_cons_self

/-- What can end in a slash is a value, and a quote stands behind it. -/
theorem getLast?_named {name : Text} (hname : IsPlain name) (attributes : Attributes) :
    (name ++ attributesText attributes).getLast? ≠ some '/' := by
  rcases List.eq_nil_or_concat' attributes with rfl | ⟨others, a, rfl⟩
  · intro hlast
    rw [attributesText, List.flatMap_nil, List.append_nil] at hlast
    exact hname.not_mem (by decide) (List.mem_of_getLast? hlast)
  · have htext : name ++ attributesText (others ++ [a]) =
        (name ++ (attributesText others ++ ' ' :: a.1 ++ "=\"".toList ++ escapeAttribute a.2)) ++ ['"'] := by
      simp [attributesText]
    rw [htext, List.getLast?_concat]
    decide

theorem readTag_body {tag : Tag} (h : tag.Plain) : readTag tag.body = some tag := by
  unfold readTag
  cases tag with
  | closing name => rfl
  | opening name attributes =>
    rw [Tag.body, if_neg (head?_plain h.1 _), if_neg (getLast?_named h.1 attributes), readNamed_plain h.1 h.2]
    rfl
  | empty name attributes =>
    rw [Tag.body, List.append_assoc, if_neg (head?_plain h.1 _), ← List.append_assoc, if_pos List.getLast?_concat,
      List.dropLast_concat, readNamed_plain h.1 h.2]
    rfl

theorem not_mem_attributesText {mark : Char} (hmark : mark = '<' ∨ mark = '>') :
    ∀ {attributes : Attributes}, PlainKeys attributes → mark ∉ attributesText attributes
  | [], _ => by simp [attributesText]
  | (key, value) :: others, h => by
    have hplain : isMark mark = true := by rcases hmark with rfl | rfl <;> decide
    have hfixed : mark ≠ ' ' ∧ mark ≠ '=' ∧ mark ≠ '"' := by rcases hmark with rfl | rfl <;> decide
    have hkey : mark ∉ key := (h _ List.mem_cons_self).not_mem hplain
    have hvalue : mark ∉ escapeAttribute value :=
      not_mem_escapeAttribute (hmark.imp_right .inl) value
    have hothers := not_mem_attributesText hmark fun a ha => h a (List.mem_cons_of_mem _ ha)
    rw [attributesText_cons]
    simp [hfixed, hkey, hvalue, hothers]

theorem not_mem_body {mark : Char} (hmark : mark = '<' ∨ mark = '>') {tag : Tag} (h : tag.Plain) : mark ∉ tag.body := by
  have hplain : isMark mark = true := by rcases hmark with rfl | rfl <;> decide
  have hslash : mark ≠ '/' := by rcases hmark with rfl | rfl <;> decide
  cases tag with
  | closing name =>
    have hname : mark ∉ name := IsPlain.not_mem h hplain
    simp [Tag.body, hslash, hname]
  | opening name attributes =>
    have hname : mark ∉ name := h.1.not_mem hplain
    simp [Tag.body, hname, not_mem_attributesText hmark h.2]
  | empty name attributes =>
    have hname : mark ∉ name := h.1.not_mem hplain
    simp [Tag.body, hslash, hname, not_mem_attributesText hmark h.2]

/-! ## Tokens -/

def tokenText : Tag × Text → Text
  | (tag, data) => '<' :: tag.body ++ '>' :: escapeContent data

theorem readToken_plain {tag : Tag} (h : tag.Plain) (data : Text) :
    readToken (tag.body ++ '>' :: escapeContent data) = some (tag, data) := by
  unfold readToken
  rw [Text.splitBy_mark (not_mem_body (.inr rfl) h), Text.splitBy_of_not_mem (not_mem_escapeContent (.inr rfl) data)]
  show (readTag tag.body).map (fun tag => (tag, unescape (escapeContent data))) = _
  rw [readTag_body h, unescape_escapeContent]
  rfl

theorem mapM_map_eq_some {α β : Type} {write : α → β} {read : β → Option α} :
    ∀ {l : List α}, (∀ a ∈ l, read (write a) = some a) → (l.map write).mapM read = some l
  | [], _ => rfl
  | a :: l, h => by
    have htail := mapM_map_eq_some fun b hb => h b (List.mem_cons_of_mem a hb)
    rw [List.map_cons, List.mapM_cons, h a List.mem_cons_self, htail]
    rfl

theorem splitBy_tokens : ∀ {tokens : List (Tag × Text)}, (∀ token ∈ tokens, token.1.Plain) →
    splitBy (· == '<') (tokens.flatMap tokenText) =
      [] :: tokens.map fun token => token.1.body ++ '>' :: escapeContent token.2
  | [], _ => rfl
  | (tag, data) :: tokens, h => by
    have htag : tag.Plain := h _ List.mem_cons_self
    have ih := splitBy_tokens fun token ht => h token (List.mem_cons_of_mem _ ht)
    have hnone : ∀ c ∈ tag.body ++ '>' :: escapeContent data, (c == '<') = false := by
      intro c hc
      have hbody : '<' ∉ tag.body ++ '>' :: escapeContent data := by
        rw [List.mem_append, List.mem_cons, not_or, not_or]
        exact ⟨not_mem_body (.inl rfl) htag, by decide, not_mem_escapeContent (.inl rfl) data⟩
      simpa using ne_of_mem_of_not_mem hc hbody
    rw [List.flatMap_cons, tokenText, List.cons_append, List.cons_append, Text.splitBy_cons_sep (by decide),
      Text.splitBy_append_of_none ih hnone, List.append_nil, List.map_cons]

/-- Plain tags are read back from their text, whatever values and data are in it. -/
theorem readTags_tokens {tokens : List (Tag × Text)} (h : ∀ token ∈ tokens, token.1.Plain) :
    readTags (tokens.flatMap tokenText) = some tokens := by
  unfold readTags
  rw [splitBy_tokens h]
  exact mapM_map_eq_some fun token ht => readToken_plain (h token ht) token.2

/-! ## What the steps write -/

/-- What stands before the first tag that the steps write: the start of its line. -/
def lead : List Text → List Step → Text
  | [], [] => []
  | _ :: outer, [] => indent outer.length
  | [], .closing :: rest => lead [] rest
  | _ :: outer, .closing :: _ => indent outer.length
  | opened, _ :: _ => indent opened.length

/-- The tags that close what is open, each with the start of the next line behind it. -/
def closingTags : List Text → List (Tag × Text)
  | [] => []
  | name :: outer => (.closing name, '\n' :: lead outer []) :: closingTags outer

/-- The tags that the steps write inside the open elements, each with its character data: the content of the element,
or the start of the next line. -/
def tagsOf : List Text → List Step → List (Tag × Text)
  | opened, [] => closingTags opened
  | opened, .opening name attributes :: rest =>
    (.opening name attributes, '\n' :: lead (name :: opened) rest) :: tagsOf (name :: opened) rest
  | opened, .empty name attributes :: rest => (.empty name attributes, '\n' :: lead opened rest) :: tagsOf opened rest
  | opened, .text name attributes content :: rest =>
    (.opening name attributes, content) :: (.closing name, '\n' :: lead opened rest) :: tagsOf opened rest
  | [], .closing :: rest => tagsOf [] rest
  | name :: outer, .closing :: rest => (.closing name, '\n' :: lead outer rest) :: tagsOf outer rest

def Step.Plain : Step → Prop
  | opening name attributes => IsPlain name ∧ PlainKeys attributes
  | empty name attributes => IsPlain name ∧ PlainKeys attributes
  | text name attributes _ => IsPlain name ∧ PlainKeys attributes
  | closing => True

instance : DecidablePred Step.Plain
  | .opening _ _ => inferInstanceAs (Decidable (_ ∧ _))
  | .empty _ _ => inferInstanceAs (Decidable (_ ∧ _))
  | .text _ _ _ => inferInstanceAs (Decidable (_ ∧ _))
  | .closing => inferInstanceAs (Decidable True)

theorem lead_blank (opened : List Text) (steps : List Step) : ∀ c ∈ lead opened steps, c = ' ' := by
  have hindent : ∀ depth, ∀ c ∈ indent depth, c = ' ' := fun depth c hc => (List.mem_replicate.1 hc).2
  fun_induction lead opened steps with
  | case1 => simp
  | case2 _ outer => exact hindent outer.length
  | case3 rest ih => exact ih
  | case4 _ outer => exact hindent outer.length
  | case5 opened => exact hindent opened.length

theorem escapeContent_lead (opened : List Text) (steps : List Step) :
    escapeContent ('\n' :: lead opened steps) = '\n' :: lead opened steps := by
  refine escapeContent_blank fun c hc => ?_
  rcases List.mem_cons.1 hc with rfl | hc
  · exact .inr rfl
  · exact .inl (lead_blank opened steps c hc)

theorem closeAll_eq : ∀ opened : List Text, closeAll opened = lead opened [] ++ (closingTags opened).flatMap tokenText
  | [] => rfl
  | name :: outer => by
    rw [closeAll, closeAll_eq outer, closingTags, List.flatMap_cons, tokenText, escapeContent_lead]
    simp [lead, closingLine, Tag.body]

/-- What is written is the start of the first line and the tags. -/
theorem write_eq (opened : List Text) (steps : List Step) :
    write opened steps = lead opened steps ++ (tagsOf opened steps).flatMap tokenText := by
  fun_induction write opened steps with
  | case1 opened => rw [closeAll_eq, tagsOf]
  | case2 opened name attributes rest ih =>
    rw [ih, tagsOf, List.flatMap_cons, tokenText, escapeContent_lead]
    simp [lead, Tag.body]
  | case3 opened name attributes rest ih =>
    rw [ih, tagsOf, List.flatMap_cons, tokenText, escapeContent_lead]
    simp [lead, Tag.body]
  | case4 opened name attributes content rest ih =>
    rw [ih, tagsOf, List.flatMap_cons, List.flatMap_cons, tokenText, tokenText, escapeContent_lead]
    simp [lead, Tag.body]
  | case5 rest ih => rw [ih, tagsOf, lead]
  | case6 name outer rest ih =>
    rw [ih, tagsOf, List.flatMap_cons, tokenText, escapeContent_lead]
    simp [lead, closingLine, Tag.body]

theorem plain_closingTags : ∀ {opened : List Text}, (∀ name ∈ opened, IsPlain name) →
    ∀ token ∈ closingTags opened, token.1.Plain
  | [], _ => by simp [closingTags]
  | name :: outer, h => by
    rw [List.forall_mem_cons] at h
    rw [closingTags, List.forall_mem_cons]
    exact ⟨h.1, plain_closingTags h.2⟩

theorem plain_tagsOf {opened : List Text} {steps : List Step} (hopened : ∀ name ∈ opened, IsPlain name)
    (hsteps : ∀ step ∈ steps, step.Plain) : ∀ token ∈ tagsOf opened steps, token.1.Plain := by
  fun_induction tagsOf opened steps with
  | case1 opened => exact plain_closingTags hopened
  | case2 opened name attributes rest ih =>
    rw [List.forall_mem_cons] at hsteps
    have hstep : IsPlain name ∧ PlainKeys attributes := hsteps.1
    exact List.forall_mem_cons.2 ⟨hstep, ih (List.forall_mem_cons.2 ⟨hstep.1, hopened⟩) hsteps.2⟩
  | case3 opened name attributes rest ih =>
    rw [List.forall_mem_cons] at hsteps
    exact List.forall_mem_cons.2 ⟨hsteps.1, ih hopened hsteps.2⟩
  | case4 opened name attributes content rest ih =>
    rw [List.forall_mem_cons] at hsteps
    have hstep : IsPlain name ∧ PlainKeys attributes := hsteps.1
    exact List.forall_mem_cons.2 ⟨hstep, List.forall_mem_cons.2 ⟨hstep.1, ih hopened hsteps.2⟩⟩
  | case5 rest ih =>
    rw [List.forall_mem_cons] at hsteps
    exact ih hopened hsteps.2
  | case6 name outer rest ih =>
    rw [List.forall_mem_cons] at hsteps hopened
    exact List.forall_mem_cons.2 ⟨hopened.1, ih hopened.2 hsteps.2⟩

theorem lead_nil : ∀ steps : List Step, lead [] steps = []
  | [] => rfl
  | .closing :: rest => by rw [lead, lead_nil rest]
  | .opening _ _ :: _ => rfl
  | .empty _ _ :: _ => rfl
  | .text _ _ _ :: _ => rfl

/-- **The tags of a document are those of its steps**, with the values that the steps give. -/
theorem readTags_document {steps : List Step} (h : ∀ step ∈ steps, step.Plain) :
    readTags (document steps) = some (tagsOf [] steps) := by
  rw [document, write_eq, lead_nil, List.nil_append, readTags_tokens (plain_tagsOf (by simp) h)]

example : readTags "<a to=\"/&quot;/&gt;\"/>\n".toList =
    some [(.empty "a".toList [("to".toList, "/\"/>".toList)], "\n".toList)] := by decide

end Markup
end ImportDispatch
