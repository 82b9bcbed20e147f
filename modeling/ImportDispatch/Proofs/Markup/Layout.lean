import ImportDispatch.Proofs.Markup.Reading
import ImportDispatch.Proofs.Text.Replacement
/-!
# Nesting and layout

What a document holds is said here without the way it is written.  `asked` lists the tags that the steps ask for: each
step that opens, fills or leaves empty an element gives the tags of it, a step that closes gives the closing tag of the
innermost open element, or nothing where none is open, and what is left open is closed in the end, the innermost first.
`laidOut` puts the tags into lines, two spaces for every element around.  What is read from a document are these tags
in these lines, and they nest (`readTags_laidOut`).
-/
namespace ImportDispatch
namespace Markup

/-! ## Escapes -/

/-- Replacing one character is a matter of each character by itself. -/
theorem replace_singleton (c : Char) (new : Text) :
    ∀ s : Text, Text.replace [c] new s = s.flatMap fun d => if d = c then new else [d]
  | [] => by rw [Text.replace, List.flatMap_nil]
  | d :: s => by
    rw [List.flatMap_cons]
    by_cases hd : d = c
    · rw [hd, if_pos rfl, ← replace_singleton c new s]
      exact Text.replace_append (List.cons_ne_nil c []) new s
    · rw [if_neg hd, List.singleton_append, ← replace_singleton c new s]
      exact Text.replace_cons (fun hfits => hd (List.cons_prefix_cons.1 hfits).1.symm) new

/-- The escapes of a content, one after the other.  The ampersand comes first: the other escapes bring ampersands of
their own. -/
theorem escapeContent_eq_replace (s : Text) : escapeContent s =
    Text.replace ['>'] "&gt;".toList (Text.replace ['<'] "&lt;".toList (Text.replace ['&'] "&amp;".toList s)) := by
  rw [replace_singleton, replace_singleton, replace_singleton, List.flatMap_assoc, List.flatMap_assoc, escapeContent]
  refine List.flatMap_congr fun c _ => ?_
  unfold escapeContentChar
  by_cases hamp : c = '&'
  · rw [hamp]; rfl
  by_cases hlt : c = '<'
  · rw [hlt]; rfl
  by_cases hgt : c = '>'
  · rw [hgt]; rfl
  simp [hamp, hlt, hgt]

theorem escapeAttribute_eq_replace (s : Text) :
    escapeAttribute s = Text.replace ['"'] "&quot;".toList (escapeContent s) := by
  rw [replace_singleton, escapeContent, List.flatMap_assoc, escapeAttribute]
  refine List.flatMap_congr fun c _ => ?_
  unfold escapeAttributeChar escapeContentChar
  by_cases hquote : c = '"'
  · rw [hquote]; rfl
  split_ifs with hamp hlt hgt
  · rfl
  · rfl
  · rfl
  · simp [hquote]

/-! ## The tags that are asked for -/

/-- The tags that the steps ask for inside the open elements, of which the innermost comes first, each with the content
that comes behind it in its line, if the step gives one. -/
def asked : List Text → List Step → List (Tag × Option Text)
  | opened, [] => opened.map fun name => (.closing name, none)
  | opened, .opening name attributes :: rest => (.opening name attributes, none) :: asked (name :: opened) rest
  | opened, .empty name attributes :: rest => (.empty name attributes, none) :: asked opened rest
  | opened, .text name attributes content :: rest =>
    (.opening name attributes, some content) :: (.closing name, none) :: asked opened rest
  | [], .closing :: rest => asked [] rest
  | name :: outer, .closing :: rest => (.closing name, none) :: asked outer rest

/-- Tags that nest: each closing tag is that of the innermost open element, and in the end no element is open. -/
inductive Nested : List Text → List Tag → Prop
  | done : Nested [] []
  | opening {opened : List Text} {rest : List Tag} (name : Text) (attributes : Attributes)
    (inside : Nested (name :: opened) rest) : Nested opened (.opening name attributes :: rest)
  | empty {opened : List Text} {rest : List Tag} (name : Text) (attributes : Attributes) (behind : Nested opened rest) :
    Nested opened (.empty name attributes :: rest)
  | closing {outer : List Text} {rest : List Tag} (name : Text) (behind : Nested outer rest) :
    Nested (name :: outer) (.closing name :: rest)

theorem nested_closings : ∀ opened : List Text, Nested opened (opened.map .closing)
  | [] => .done
  | name :: outer => .closing name (nested_closings outer)

theorem nested_asked (opened : List Text) (steps : List Step) : Nested opened ((asked opened steps).map Prod.fst) := by
  fun_induction asked opened steps with
  | case1 opened =>
    rw [List.map_map]
    exact nested_closings opened
  | case2 opened name attributes rest ih => exact .opening name attributes ih
  | case3 opened name attributes rest ih => exact .empty name attributes ih
  | case4 opened name attributes content rest ih => exact .opening name attributes (.closing name ih)
  | case5 rest ih => exact ih
  | case6 name outer rest ih => exact .closing name ih

/-! ## Lines -/

/-- The elements around a tag, if these are open in front of it: a closing tag stands outside of its element. -/
def Tag.around (opened : List Text) : Tag → List Text
  | closing _ => opened.tail
  | _ => opened

/-- The elements that are open behind a tag. -/
def Tag.inside (opened : List Text) : Tag → List Text
  | opening name _ => name :: opened
  | empty _ _ => opened
  | closing _ => opened.tail

/-- The start of the line of the first tag: two spaces for every element around it. -/
def lineStart (opened : List Text) : List (Tag × Option Text) → Text
  | [] => []
  | (tag, _) :: _ => List.replicate (2 * (tag.around opened).length) ' '

/-- The tags with the character data behind each: the content, or the end of the line and the start of the next. -/
def laidOut (opened : List Text) : List (Tag × Option Text) → List (Tag × Text)
  | [] => []
  | (tag, some content) :: rest => (tag, content) :: laidOut (tag.inside opened) rest
  | (tag, none) :: rest =>
    (tag, '\n' :: lineStart (tag.inside opened) rest) :: laidOut (tag.inside opened) rest

theorem lead_eq_lineStart (opened : List Text) (steps : List Step) :
    lead opened steps = lineStart opened (asked opened steps) := by
  fun_induction lead opened steps with
  | case1 => rfl
  | case2 name outer => rfl
  | case3 rest ih => exact ih
  | case4 name outer rest => rfl
  | case5 opened step rest hnone hsome =>
    -- a step that closes is one of the cases before
    cases step with
    | opening name attributes => rfl
    | empty name attributes => rfl
    | text name attributes content => rfl
    | closing =>
      cases opened with
      | nil => exact (hnone rfl rfl).elim
      | cons name outer => exact (hsome name outer rfl rfl).elim

theorem closingTags_eq_laidOut : ∀ opened : List Text, closingTags opened = laidOut opened (asked opened [])
  | [] => rfl
  | name :: outer => by
    rw [closingTags, closingTags_eq_laidOut outer, lead_eq_lineStart]
    rfl

theorem tagsOf_eq_laidOut (opened : List Text) (steps : List Step) :
    tagsOf opened steps = laidOut opened (asked opened steps) := by
  fun_induction tagsOf opened steps with
  | case1 opened => exact closingTags_eq_laidOut opened
  | case2 opened name attributes rest ih => rw [ih, lead_eq_lineStart]; rfl
  | case3 opened name attributes rest ih => rw [ih, lead_eq_lineStart]; rfl
  | case4 opened name attributes content rest ih => rw [ih, lead_eq_lineStart]; rfl
  | case5 rest ih => exact ih
  | case6 name outer rest ih => rw [ih, lead_eq_lineStart]; rfl

/-- **The tags of a document are those that its steps ask for, laid out in lines, and they nest.**  No name may be
empty: an empty element without one would be written `</>`, which is a closing tag. -/
theorem readTags_laidOut {steps : List Step} (h : ∀ step ∈ steps, step.Plain) :
    readTags (document steps) = some (laidOut [] (asked [] steps)) ∧ Nested [] ((asked [] steps).map Prod.fst) := by
  rw [readTags_document h, tagsOf_eq_laidOut]
  exact ⟨rfl, nested_asked [] steps⟩

/-- Steps that close nothing first, and leave two elements open in the end. -/
def straySteps : List Step :=
  [.closing, .opening "fork".toList [attr "name" "a\"/><b c=\"".toList],
    .empty "path".toList [attr "start" "&lt;".toList], .closing, .closing, .opening "outer".toList [],
    .opening "inner".toList [], .text "arg".toList [] "</arg>\n&amp; \"done\"".toList]

theorem readTags_laidOut_straySteps :
    (∀ step ∈ straySteps, step.Plain) ∧ readTags (document straySteps) = some
      [(.opening "fork".toList [attr "name" "a\"/><b c=\"".toList], "\n  ".toList),
        (.empty "path".toList [attr "start" "&lt;".toList], "\n".toList), (.closing "fork".toList, "\n".toList),
        (.opening "outer".toList [], "\n  ".toList), (.opening "inner".toList [], "\n    ".toList),
        (.opening "arg".toList [], "</arg>\n&amp; \"done\"".toList), (.closing "arg".toList, "\n  ".toList),
        (.closing "inner".toList, "\n".toList), (.closing "outer".toList, "\n".toList)] ∧
      Nested [] ((asked [] straySteps).map Prod.fst) := by
  have hplain : ∀ step ∈ straySteps, step.Plain := by decide
  obtain ⟨hread, hnested⟩ := readTags_laidOut hplain
  exact ⟨hplain, hread.trans rfl, hnested⟩

end Markup
end ImportDispatch
