import ImportDispatch.Hexadecimal
import ImportDispatch.Proofs.Markup.Elements
import Mathlib.Data.List.Infix
/-!
# Conforming readers

The rules of markup go beyond the four marks that are escaped.  A document may not hold every character, and no reference
stands for those that it may not hold.  A line ends in a line feed, whatever it is written with; and in the value of an
attribute what breaks or indents a line is a space.  A reference keeps a character from both, but the escapes write none
for these characters.  So what is read is the text with its line ends, and in a value with its spaces, made uniform
(`content?_escapeContent`, `value?_escapeAttribute`), if it is read at all.
-/
namespace ImportDispatch
namespace Markup
namespace Conforming

/-! ## Characters and references -/

/-- The characters that may be in a document. -/
def isLegal (code : Nat) : Bool :=
  code == 0x9 || code == 0xA || code == 0xD || (0x20 ≤ code && code ≤ 0xD7FF) || (0xE000 ≤ code && code ≤ 0xFFFD) ||
    (0x10000 ≤ code && code ≤ 0x10FFFF)

def IsLegal (s : Text) : Prop := ∀ c ∈ s, isLegal c.toNat = true

instance : DecidablePred IsLegal := fun s => List.decidableBAll _ s

def isLayout (c : Char) : Bool := c == '\t' || c == '\n' || c == '\r'

/-- A line ends in a line feed, also where it is written with a carriage return. -/
def lineEnds : Text → Text
  | '\r' :: '\n' :: rest => '\n' :: lineEnds rest
  | '\r' :: rest => '\n' :: lineEnds rest
  | c :: rest => c :: lineEnds rest
  | [] => []

/-- A character of a value, if it is not written as a reference. -/
def spaced (c : Char) : Char := if isLayout c then ' ' else c

def hexadecimal? (s : Text) : Option Nat :=
  if s.isEmpty then none else s.foldlM (fun n c => (Hexadecimal.value? c).map (16 * n + ·)) 0

def predefined : List (Text × Char) :=
  [("amp".toList, '&'), ("lt".toList, '<'), ("gt".toList, '>'), ("apos".toList, '\''), ("quot".toList, '"')]

def referred? : Text → Option Char
  | '#' :: 'x' :: digits => (hexadecimal? digits).bind fun code => if isLegal code then some (Char.ofNat code) else none
  | '#' :: digits => (Decimal.toNat? digits).bind fun code => if isLegal code then some (Char.ofNat code) else none
  | name => predefined.lookup name

/-- The text with its references resolved.  Inside a reference, what has been read of its name comes first. -/
def resolve : Option Text → Text → Option Text
  | none, [] => some []
  | none, '&' :: rest => resolve (some []) rest
  | none, c :: rest => (resolve none rest).map (c :: ·)
  | some _, [] => none
  | some name, ';' :: rest =>
    match referred? name with
    | some c => (resolve none rest).map (c :: ·)
    | none => none
  | some name, c :: rest => resolve (some (name ++ [c])) rest

/-! ## Contents and values -/

def content? (raw : Text) : Option Text :=
  if IsLegal raw ∧ '<' ∉ raw ∧ ¬"]]>".toList <:+: raw then resolve none (lineEnds raw) else none

/-- The value of an attribute between double quotes, where nothing is declared about the attribute. -/
def value? (raw : Text) : Option Text :=
  if IsLegal raw ∧ '<' ∉ raw ∧ '"' ∉ raw then resolve none ((lineEnds raw).map spaced) else none

example : value? "one&#9;two\tthree".toList = some "one\ttwo three".toList := by decide

/-! ## Escapes -/

/-- What an escape does to a character: it leaves it alone, or it writes a reference to it. -/
structure IsEscape (escape : Char → Text) : Prop where
  shape : ∀ c, escape c = [c] ∨
    ∃ name, escape c = '&' :: name ∧ ∀ d ∈ c :: '&' :: name, isLegal d.toNat = true ∧ isLayout d = false
  space : escape ' ' = [' ']
  resolve : ∀ c s, resolve none (escape c ++ s) = (resolve none s).map (c :: ·)

theorem resolve_cons {c : Char} (hc : c ≠ '&') (s : Text) : resolve none (c :: s) = (resolve none s).map (c :: ·) := by
  rw [resolve]
  rintro rfl
  exact hc rfl

theorem forall_ink {s : Text} (h : (s.all fun d => isLegal d.toNat && !isLayout d) = true) :
    ∀ d ∈ s, isLegal d.toNat = true ∧ isLayout d = false := by
  simpa using h

theorem isEscape_content : IsEscape escapeContentChar where
  shape c := by
    unfold escapeContentChar
    split_ifs with hamp hlt hgt
    · exact .inr ⟨_, rfl, forall_ink (by subst hamp; decide)⟩
    · exact .inr ⟨_, rfl, forall_ink (by subst hlt; decide)⟩
    · exact .inr ⟨_, rfl, forall_ink (by subst hgt; decide)⟩
    · exact .inl rfl
  space := rfl
  resolve c s := by
    unfold escapeContentChar
    split_ifs with hamp hlt hgt
    · subst hamp; rfl
    · subst hlt; rfl
    · subst hgt; rfl
    · exact resolve_cons hamp s

theorem isEscape_attribute : IsEscape escapeAttributeChar where
  shape c := by
    unfold escapeAttributeChar
    split_ifs with hquote
    · exact .inr ⟨_, rfl, forall_ink (by subst hquote; decide)⟩
    · exact isEscape_content.shape c
  space := rfl
  resolve c s := by
    unfold escapeAttributeChar
    split_ifs with hquote
    · subst hquote; rfl
    · exact isEscape_content.resolve c s

theorem lineEnds_cons {c : Char} (hc : c ≠ '\r') (s : Text) : lineEnds (c :: s) = c :: lineEnds s := by
  rw [lineEnds]
  · rintro _ rfl
    exact absurd rfl hc
  · rintro rfl
    exact hc rfl

theorem lineEnds_return {s : Text} (hs : s.head? ≠ some '\n') : lineEnds ('\r' :: s) = '\n' :: lineEnds s := by
  rw [lineEnds]
  rintro rest rfl
  exact hs rfl

theorem lineEnds_append (s : Text) : ∀ {t : Text}, '\r' ∉ t → lineEnds (t ++ s) = t ++ lineEnds s
  | [], _ => rfl
  | c :: t, h => by
    rw [List.mem_cons, not_or] at h
    rw [List.cons_append, lineEnds_cons (Ne.symm h.1), lineEnds_append s h.2, List.cons_append]

theorem not_mem_lineEnds (s : Text) : '\r' ∉ lineEnds s := by
  fun_induction lineEnds s with
  | case1 rest ih => exact List.not_mem_cons_of_ne_of_not_mem (by decide) ih
  | case2 rest _ ih => exact List.not_mem_cons_of_ne_of_not_mem (by decide) ih
  | case3 c rest _ hc ih => exact List.not_mem_cons_of_ne_of_not_mem (fun heq => hc heq.symm) ih
  | case4 => exact List.not_mem_nil

theorem isLayout_spaced (c : Char) : isLayout (spaced c) = false := by
  unfold spaced
  split
  · rfl
  · rename_i hc
    exact Bool.eq_false_iff.2 hc

namespace IsEscape

variable {escape : Char → Text} (h : IsEscape escape)

include h

theorem resolve_flatMap : ∀ s : Text, Conforming.resolve none (s.flatMap escape) = some s
  | [] => rfl
  | c :: s => by rw [List.flatMap_cons, h.resolve, resolve_flatMap s, Option.map_some]

theorem isLegal_flatMap (s : Text) : IsLegal (s.flatMap escape) ↔ IsLegal s := by
  have hchar : ∀ c, IsLegal (escape c) ↔ isLegal c.toNat = true := by
    intro c
    rcases h.shape c with hsame | ⟨name, hname, hink⟩
    · rw [hsame, IsLegal, List.forall_mem_singleton]
    · rw [List.forall_mem_cons] at hink
      rw [hname]
      exact iff_of_true (fun d hd => (hink.2 d hd).1) hink.1.1
  rw [IsLegal, List.forall_mem_flatMap]
  exact forall₂_congr fun c _ => hchar c

theorem of_isLayout {c : Char} (hc : isLayout c = true) : escape c = [c] := by
  rcases h.shape c with hsame | ⟨name, -, hink⟩
  · exact hsame
  · rw [(hink c List.mem_cons_self).2] at hc
    cases hc

theorem not_isLayout {c : Char} (hc : isLayout c = false) : ∀ d ∈ escape c, isLayout d = false := by
  rcases h.shape c with hsame | ⟨name, hname, hink⟩
  · rwa [hsame, List.forall_mem_singleton]
  · rw [hname]
    exact fun d hd => (hink d (List.mem_cons_of_mem _ hd)).2

theorem map_spaced_flatMap (s : Text) : (s.flatMap escape).map spaced = (s.map spaced).flatMap escape := by
  rw [List.map_flatMap, List.flatMap_map]
  refine List.flatMap_congr fun c _ => ?_
  cases hc : isLayout c with
  | true => rw [h.of_isLayout hc, spaced, if_pos hc, h.space, List.map_singleton, spaced, if_pos hc]
  | false =>
    have hsame : ∀ d ∈ escape c, spaced d = d := fun d hd => by simp [spaced, h.not_isLayout hc d hd]
    rw [spaced, if_neg (by simp [hc]), List.map_congr_left hsame, List.map_id']

/-- An escape neither makes nor breaks a line end. -/
theorem lineEnds_flatMap (s : Text) : lineEnds (s.flatMap escape) = (lineEnds s).flatMap escape := by
  have hreturn : escape '\r' = ['\r'] := h.of_isLayout (by decide)
  have hfeed : escape '\n' = ['\n'] := h.of_isLayout (by decide)
  fun_induction lineEnds s with
  | case1 rest ih =>
    rw [List.flatMap_cons, List.flatMap_cons, List.flatMap_cons, hreturn, hfeed, ← ih]
    rfl
  | case2 rest hrest ih =>
    have hhead : (rest.flatMap escape).head? ≠ some '\n' := by
      cases rest with
      | nil => simp
      | cons c rest =>
        rw [List.flatMap_cons]
        rcases h.shape c with hsame | ⟨name, hname, -⟩
        · rw [hsame]
          rintro ⟨⟩
          exact hrest rest rfl
        · rw [hname]
          exact fun hamp => absurd hamp (by decide : some '&' ≠ some '\n')
    rw [List.flatMap_cons, List.flatMap_cons, hreturn, hfeed, ← ih]
    exact lineEnds_return hhead
  | case3 c rest hfeed' hreturn' ih =>
    have hc : '\r' ∉ escape c := by
      rcases h.shape c with hsame | ⟨name, hname, hink⟩
      · rw [hsame, List.mem_singleton]
        rintro rfl
        exact hreturn' rfl
      · rw [hname]
        exact fun hmem => absurd (hink _ (List.mem_cons_of_mem c hmem)).2 (by decide)
    rw [List.flatMap_cons, List.flatMap_cons, lineEnds_append _ hc, ih]
  | case4 => rfl

end IsEscape

/-! ## What is read -/

/-- A text as a value is read: in one line, with spaces for what broke or indented it. -/
def inLine (s : Text) : Text := (lineEnds s).map spaced

theorem content?_escapeContent (s : Text) :
    content? (escapeContent s) = if IsLegal s then some (lineEnds s) else none := by
  have hlt : '<' ∉ escapeContent s := not_mem_escapeContent (.inl rfl) s
  have hgt : ¬"]]>".toList <:+: escapeContent s := fun hend =>
    not_mem_escapeContent (.inr rfl) s (hend.subset (by decide))
  have hlegal : IsLegal (escapeContent s) ↔ IsLegal s := isEscape_content.isLegal_flatMap s
  have hread : resolve none (lineEnds (escapeContent s)) = some (lineEnds s) := by
    rw [escapeContent, isEscape_content.lineEnds_flatMap, isEscape_content.resolve_flatMap]
  rw [content?, hread]
  simp only [hlegal, hlt, hgt, not_false_eq_true, and_true]

theorem value?_escapeAttribute (s : Text) :
    value? (escapeAttribute s) = if IsLegal s then some (inLine s) else none := by
  have hlt : '<' ∉ escapeAttribute s := not_mem_escapeAttribute (.inl rfl) s
  have hquote : '"' ∉ escapeAttribute s := not_mem_escapeAttribute (.inr (.inr rfl)) s
  have hlegal : IsLegal (escapeAttribute s) ↔ IsLegal s := isEscape_attribute.isLegal_flatMap s
  have hread : resolve none ((lineEnds (escapeAttribute s)).map spaced) = some (inLine s) := by
    rw [escapeAttribute, isEscape_attribute.lineEnds_flatMap, isEscape_attribute.map_spaced_flatMap,
      isEscape_attribute.resolve_flatMap, inLine]
  rw [value?, hread]
  simp only [hlegal, hlt, hquote, not_false_eq_true, and_true]

theorem lineEnds_eq_self {s : Text} : lineEnds s = s ↔ '\r' ∉ s := by
  constructor
  · intro h
    rw [← h]
    exact not_mem_lineEnds s
  · intro h
    have hread := lineEnds_append [] h
    rwa [List.append_nil, lineEnds, List.append_nil] at hread

theorem inLine_eq_self {s : Text} : inLine s = s ↔ ∀ c ∈ s, isLayout c = false := by
  constructor
  · intro h
    rw [← h, inLine, List.forall_mem_map]
    exact fun c _ => isLayout_spaced c
  · intro h
    have hreturn : '\r' ∉ s := fun hmem => absurd (h _ hmem) (by decide)
    have hsame : ∀ c ∈ s, spaced c = c := fun c hc => by simp [spaced, h c hc]
    rw [inLine, lineEnds_eq_self.2 hreturn, List.map_congr_left hsame, List.map_id']

/-- A content that a document can hold, and that is read as it was. -/
def KeptContent (s : Text) : Prop := IsLegal s ∧ '\r' ∉ s

/-- A value that a document can hold, and that is read as it was. -/
def KeptValue (s : Text) : Prop := IsLegal s ∧ ∀ c ∈ s, isLayout c = false

instance : DecidablePred KeptContent := fun s => inferInstanceAs (Decidable (IsLegal s ∧ '\r' ∉ s))

instance : DecidablePred KeptValue := fun s => @instDecidableAnd _ _ _ (List.decidableBAll _ s)

theorem content?_eq_self {s : Text} : content? (escapeContent s) = some s ↔ KeptContent s := by
  rw [content?_escapeContent, Option.ite_none_right_eq_some, Option.some.injEq, lineEnds_eq_self, KeptContent]

theorem value?_eq_self {s : Text} : value? (escapeAttribute s) = some s ↔ KeptValue s := by
  rw [value?_escapeAttribute, Option.ite_none_right_eq_some, Option.some.injEq, inLine_eq_self, KeptValue]

end Conforming
end Markup
end ImportDispatch
