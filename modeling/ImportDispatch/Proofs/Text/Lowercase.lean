import ImportDispatch.Text.Lowercase
import Mathlib.Data.List.Infix
/-!
# Small letters

In ASCII text the two ways to small letters are one (`lowercase_of_ascii`).  In any text the small letters are small
already: no row of the case table lists the small form of another one's capitals, so that `lowercase` does nothing the
second time (`lowercase_lowercase`).

The small form of a character outside of ASCII lies outside of it too, with two exceptions: the Kelvin sign becomes a
`k`, and the dotted capital I an `i` with a mark behind it.  So a search in small letters for an ASCII text with no `k`
and no `i` at its end finds what a search with ASCII letters alone finds (`infix_lowercase_iff`), and the two ways agree
on which texts become such a text (`lowercase_eq_iff`).
-/
namespace ImportDispatch

/-! ## The rows of the case table -/

namespace CaseTable

namespace Capitals

/-- The small form of a capital in the row. -/
def small (row : Capitals) (n : Nat) : Nat := (n + row.shift).toNat

/-- No small form of the row is a capital of the other: the ranges lie apart, or both rows hold every second character
and alternate. -/
def apartFrom (row other : Capitals) : Bool :=
  Nat.blt (row.small row.last) other.first || Nat.blt other.last (row.small row.first) ||
    (row.stride == 2 || row.first == row.last) && other.stride == 2 && (row.small row.first + other.first) % 2 == 1

/-- The small forms of the row are characters.  Outside of ASCII they are no ASCII characters, but for the one of the
Kelvin sign, and none of them is the dotted capital I. -/
def Fits (row : Capitals) : Prop :=
  0 ≤ row.first + row.shift ∧ (row.last + row.shift < 0xD800 ∨ 0xDFFF < row.first + row.shift ∧
    row.last + row.shift < 0x110000) ∧ (row.last + row.shift < 0x130 ∨ 0x130 < row.first + row.shift) ∧
  (row.last < 128 ∨ row.first = 0x212A ∧ row.last = 0x212A ∨ 128 ≤ row.first + row.shift)

instance (row : Capitals) : Decidable row.Fits := by unfold Fits; infer_instance

theorem lists_iff {row : Capitals} {n : Nat} :
    row.lists n = true ↔ row.first ≤ n ∧ n ≤ row.last ∧ (n - row.first) % row.stride = 0 := by
  simp [lists, and_assoc]

end Capitals

theorem capitals_apart : (capitals.all fun row => capitals.all row.apartFrom) = true := by decide +kernel

theorem capitals_fit : ∀ row ∈ capitals, row.Fits := by decide +kernel

theorem not_lists_small {row other : Capitals} (hrow : row ∈ capitals) (hother : other ∈ capitals) {n : Nat}
    (h : row.lists n = true) : ¬ other.lists (row.small n) = true := by
  have hapart := List.all_eq_true.1 (List.all_eq_true.1 capitals_apart row hrow) other hother
  have hpos := (capitals_fit row hrow).1
  rw [Capitals.lists_iff] at h ⊢
  simp only [Capitals.apartFrom, Bool.or_eq_true, Bool.and_eq_true, Nat.blt_eq, beq_iff_eq, Capitals.small] at hapart ⊢
  obtain ⟨hfirst, hlast, hstride⟩ := h
  rintro ⟨hfirst', hlast', hstride'⟩
  rcases hapart with (hlow | hhigh) | ⟨⟨hrow2, hother2⟩, hodd⟩
  · omega
  · omega
  · -- both are every second character, so that the sum of a small form and a capital would be even
    rw [hother2] at hstride'
    have heven : (n - row.first) % 2 = 0 := by
      rcases hrow2 with hrow2 | hrow2
      · rwa [hrow2] at hstride
      · rw [show n - row.first = 0 by omega]
    omega

theorem smallForm_cases (n : Nat) :
    smallForm n = n ∧ (∀ row ∈ capitals, ¬ row.lists n = true) ∨
      ∃ row ∈ capitals, row.lists n = true ∧ smallForm n = row.small n := by
  unfold smallForm
  cases hfind : capitals.find? (·.lists n) with
  | none => exact .inl ⟨rfl, List.find?_eq_none.1 hfind⟩
  | some row => exact .inr ⟨row, List.mem_of_find?_eq_some hfind, by simpa using List.find?_some hfind, rfl⟩

theorem smallForm_of_not_listed {n : Nat} (h : ∀ row ∈ capitals, ¬ row.lists n = true) : smallForm n = n := by
  rw [smallForm, List.find?_eq_none.2 h]

/-- A small form is small. -/
theorem smallForm_smallForm (n : Nat) : smallForm (smallForm n) = smallForm n := by
  rcases smallForm_cases n with ⟨h, -⟩ | ⟨row, hrow, hlists, h⟩
  · rw [h, h]
  · rw [h]
    exact smallForm_of_not_listed fun other hother => not_lists_small hrow hother hlists

theorem isValidChar_smallForm {n : Nat} (h : n.isValidChar) : (smallForm n).isValidChar := by
  rcases smallForm_cases n with ⟨heq, -⟩ | ⟨row, hrow, hlists, heq⟩
  · rwa [heq]
  · obtain ⟨hpos, hvalid, -, -⟩ := capitals_fit row hrow
    obtain ⟨hfirst, hlast, -⟩ := Capitals.lists_iff.1 hlists
    rw [heq, Capitals.small, Nat.isValidChar]
    omega

theorem smallForm_ne_dotted {n : Nat} (h : n ≠ 0x130) : smallForm n ≠ 0x130 := by
  rcases smallForm_cases n with ⟨heq, -⟩ | ⟨row, hrow, hlists, heq⟩
  · rwa [heq]
  · obtain ⟨hpos, -, hdotted, -⟩ := capitals_fit row hrow
    obtain ⟨hfirst, hlast, -⟩ := Capitals.lists_iff.1 hlists
    rw [heq, Capitals.small]
    omega

theorem le_smallForm {n : Nat} (h : 128 ≤ n) (hkelvin : n ≠ 0x212A) : 128 ≤ smallForm n := by
  rcases smallForm_cases n with ⟨heq, -⟩ | ⟨row, hrow, hlists, heq⟩
  · rwa [heq]
  · obtain ⟨hpos, -, -, hascii⟩ := capitals_fit row hrow
    obtain ⟨hfirst, hlast, -⟩ := Capitals.lists_iff.1 hlists
    rw [heq, Capitals.small]
    omega

end CaseTable

namespace Text

open CaseTable (smallForm)

/-! ## The small form of a character -/

theorem lt_of_toLower_lt {c : Char} (h : c.toLower.toNat < 128) : c.toNat < 128 := by
  delta Char.toLower at h
  split at h
  · rename_i upper
    have : c.toNat ≤ 90 := UInt32.le_iff_toNat_le.1 upper.2
    omega
  · exact h

theorem lowerChar_of_ascii {c : Char} (h : c.toNat < 128) : lowerChar c = [c.toLower] := by
  rw [lowerChar, if_pos h]

/-- What holds of the characters with the first numbers holds of those of ASCII. -/
theorem forall_ascii {p : Char → Prop} (h : ∀ n < 128, p (Char.ofNat n)) {c : Char} (hc : c.toNat < 128) : p c := by
  have hfirst := h c.toNat hc
  rwa [Char.ofNat_toNat] at hfirst

theorem lowerChar_toLower {c : Char} (h : c.toNat < 128) : lowerChar c.toLower = [c.toLower] :=
  forall_ascii (p := fun c => lowerChar c.toLower = [c.toLower]) (by decide) h

/-- What a character becomes: an ASCII character its small letter, the dotted capital I and the Kelvin sign letters that
ASCII has too, and any other character one outside of ASCII. -/
inductive BecomesSmall : Char → Text → Prop
  | ascii {c : Char} (h : c.toNat < 128) : BecomesSmall c [c.toLower]
  | dotted {c : Char} (h : 128 ≤ c.toNat) : BecomesSmall c ['i', Char.ofNat 0x307]
  | kelvin {c : Char} (h : 128 ≤ c.toNat) : BecomesSmall c ['k']
  | beyond {c d : Char} (h : 128 ≤ c.toNat) (hd : 128 ≤ d.toNat) (small : lowerChar d = [d]) : BecomesSmall c [d]

theorem becomesSmall_lowerChar (c : Char) : BecomesSmall c (lowerChar c) := by
  by_cases hascii : c.toNat < 128
  · rw [lowerChar_of_ascii hascii]
    exact .ascii hascii
  have hc : 128 ≤ c.toNat := by omega
  rw [lowerChar, if_neg hascii]
  by_cases hdotted : c.toNat = 0x130
  · rw [if_pos hdotted]
    exact .dotted hc
  rw [if_neg hdotted]
  by_cases hkelvin : c.toNat = 0x212A
  · rw [hkelvin]
    exact .kelvin hc
  · have hvalid : (smallForm c.toNat).isValidChar := CaseTable.isValidChar_smallForm c.valid
    have hnat : (Char.ofNat (smallForm c.toNat)).toNat = smallForm c.toNat := by
      rw [Char.ofNat, dif_pos hvalid]
      rfl
    have hsmall : 128 ≤ smallForm c.toNat := CaseTable.le_smallForm hc hkelvin
    refine .beyond hc (by omega) ?_
    rw [lowerChar, hnat, if_neg (by omega), if_neg (CaseTable.smallForm_ne_dotted hdotted),
      CaseTable.smallForm_smallForm]

theorem BecomesSmall.small {c : Char} {small : Text} (h : BecomesSmall c small) : ∀ d ∈ small, lowerChar d = [d] := by
  cases h with
  | ascii h => simpa using lowerChar_toLower h
  | dotted _ => exact List.forall_mem_cons.2 ⟨by decide, List.forall_mem_singleton.2 (by decide)⟩
  | kelvin _ => exact List.forall_mem_singleton.2 (by decide)
  | beyond _ _ h => simpa using h

/-! ## The small form of a text -/

theorem lowercaseAfter_cons (behindLetter : Bool) (c : Char) (rest : Text) : ∃ small behindNext,
    BecomesSmall c small ∧ lowercaseAfter behindLetter (c :: rest) = small ++ lowercaseAfter behindNext rest := by
  rw [lowercaseAfter]
  by_cases hsigma : c.toNat = 0x3A3
  · refine ⟨_, _, ?_, rfl⟩
    rw [if_pos hsigma]
    by_cases hend : (behindLetter && !startsWithLetter rest) = true
    · rw [if_pos hend]
      exact .beyond (by omega) (by decide) (by decide)
    · rw [if_neg hend]
      exact .beyond (by omega) (by decide) (by decide)
  · refine ⟨_, _, ?_, rfl⟩
    rw [if_neg hsigma]
    exact becomesSmall_lowerChar c

theorem lowercaseAfter_of_small : ∀ (behindLetter : Bool) {s : Text}, (∀ c ∈ s, lowerChar c = [c]) →
    lowercaseAfter behindLetter s = s
  | _, [], _ => rfl
  | behindLetter, c :: rest, h => by
    have hc : lowerChar c = [c] := h c List.mem_cons_self
    have hsigma : c.toNat ≠ 0x3A3 := by
      intro hsigma
      rw [← Char.ofNat_toNat c, hsigma] at hc
      revert hc
      decide
    rw [lowercaseAfter, if_neg hsigma, hc, lowercaseAfter_of_small _ fun d hd => h d (List.mem_cons_of_mem c hd)]
    rfl

theorem small_of_mem_lowercaseAfter : ∀ (behindLetter : Bool) {s : Text},
    ∀ d ∈ lowercaseAfter behindLetter s, lowerChar d = [d]
  | _, [], d, hd => by cases hd
  | behindLetter, c :: rest, d, hd => by
    obtain ⟨small, behindNext, hsmall, heq⟩ := lowercaseAfter_cons behindLetter c rest
    rw [heq, List.mem_append] at hd
    rcases hd with hd | hd
    · exact hsmall.small d hd
    · exact small_of_mem_lowercaseAfter behindNext d hd

/-- Small letters are small already. -/
theorem lowercase_lowercase (s : Text) : lowercase (lowercase s) = lowercase s :=
  lowercaseAfter_of_small false (small_of_mem_lowercaseAfter false)

/-! ## ASCII text -/

theorem lowercaseAfter_of_ascii : ∀ (behindLetter : Bool) (s : Text), (∀ c ∈ asciiLower s, c.toNat < 128) →
    lowercaseAfter behindLetter s = asciiLower s
  | _, [], _ => rfl
  | behindLetter, c :: rest, h => by
    have hc : c.toNat < 128 := lt_of_toLower_lt (h c.toLower (by simp [asciiLower]))
    have hrest : ∀ d ∈ asciiLower rest, d.toNat < 128 := fun d hd => h d (by simp_all [asciiLower])
    rw [lowercaseAfter, if_neg (by omega), lowerChar_of_ascii hc, lowercaseAfter_of_ascii _ rest hrest]
    rfl

theorem lowercase_of_ascii {s : Text} (h : ∀ c ∈ asciiLower s, c.toNat < 128) : lowercase s = asciiLower s :=
  lowercaseAfter_of_ascii false s h

/-- An ASCII text whose letters come from ASCII letters alone: it holds no `k`, and no `i` at its end. -/
def FromAscii : Text → Prop
  | [] => True
  | c :: rest => c.toNat < 128 ∧ c ≠ 'k' ∧ (c = 'i' → rest ≠ []) ∧ FromAscii rest

instance decidableFromAscii : ∀ w, Decidable (FromAscii w)
  | [] => .isTrue trivial
  | c :: rest =>
    have := decidableFromAscii rest
    inferInstanceAs (Decidable (c.toNat < 128 ∧ c ≠ 'k' ∧ (c = 'i' → rest ≠ []) ∧ FromAscii rest))

theorem not_prefix_toLower {x c : Char} (hx : x.toNat < 128) (hc : 128 ≤ c.toNat) (w t : Text) :
    ¬ x :: w <+: c.toLower :: t := by
  intro h
  have heq := (List.cons_prefix_cons.1 h).1
  have := lt_of_toLower_lt (heq ▸ hx)
  omega

theorem prefix_lowercaseAfter_iff : ∀ {w : Text}, FromAscii w → ∀ (behindLetter : Bool) (s : Text),
    w <+: lowercaseAfter behindLetter s ↔ w <+: asciiLower s
  | [], _, _, _ => by simp
  | _ :: _, _, _, [] => by simp [lowercaseAfter, asciiLower]
  | x :: w, ⟨hascii, hk, hi, hw⟩, behindLetter, c :: rest => by
    obtain ⟨small, behindNext, hsmall, heq⟩ := lowercaseAfter_cons behindLetter c rest
    have hlower : asciiLower (c :: rest) = c.toLower :: asciiLower rest := rfl
    rw [heq, hlower]
    cases hsmall with
    | ascii h =>
      rw [List.singleton_append, List.cons_prefix_cons, List.cons_prefix_cons,
        prefix_lowercaseAfter_iff hw behindNext rest]
    | dotted h =>
      refine iff_of_false (fun hx => ?_) (not_prefix_toLower hascii h w _)
      obtain ⟨hfirst, hrest⟩ := List.cons_prefix_cons.1 hx
      obtain ⟨y, w, rfl⟩ := List.exists_cons_of_ne_nil (hi hfirst)
      have hy := (List.cons_prefix_cons.1 hrest).1
      exact absurd (hy ▸ hw.1) (by decide)
    | kelvin h => exact iff_of_false (fun hx => hk (List.cons_prefix_cons.1 hx).1) (not_prefix_toLower hascii h w _)
    | beyond h hd _ =>
      refine iff_of_false (fun hx => ?_) (not_prefix_toLower hascii h w _)
      have hx := (List.cons_prefix_cons.1 hx).1
      have := hx ▸ hascii
      omega

theorem BecomesSmall.infix_append_iff {c : Char} {small w : Text} (hsmall : BecomesSmall c small) (hw : FromAscii w)
    (rest : Text) : w <:+: small ++ rest ↔ w <+: small ++ rest ∨ w <:+: rest := by
  cases hsmall with
  | ascii _ => exact List.infix_cons_iff
  | kelvin _ => exact List.infix_cons_iff
  | beyond _ _ _ => exact List.infix_cons_iff
  | dotted _ =>
    -- the mark behind the `i` begins nothing that is ASCII
    have hmark : w <+: Char.ofNat 0x307 :: rest → w <:+: rest := by
      cases w with
      | nil => exact fun _ => List.nil_infix
      | cons x w =>
        intro hx
        have hx := (List.cons_prefix_cons.1 hx).1
        exact absurd (hx ▸ hw.1) (by decide)
    rw [List.cons_append, List.singleton_append, List.infix_cons_iff, List.infix_cons_iff, or_iff_right_of_imp hmark]

theorem infix_lowercaseAfter_iff {w : Text} (hw : FromAscii w) : ∀ (behindLetter : Bool) (s : Text),
    w <:+: lowercaseAfter behindLetter s ↔ w <:+: asciiLower s
  | _, [] => Iff.rfl
  | behindLetter, c :: rest => by
    obtain ⟨small, behindNext, hsmall, heq⟩ := lowercaseAfter_cons behindLetter c rest
    have hlower : asciiLower (c :: rest) = c.toLower :: asciiLower rest := rfl
    rw [heq, hsmall.infix_append_iff hw, ← heq, prefix_lowercaseAfter_iff hw,
      infix_lowercaseAfter_iff hw behindNext rest, hlower, List.infix_cons_iff]

/-- A search in small letters finds such a text where a search with ASCII letters alone does. -/
theorem infix_lowercase_iff {w : Text} (hw : FromAscii w) (s : Text) : w <:+: lowercase s ↔ w <:+: asciiLower s :=
  infix_lowercaseAfter_iff hw false s

theorem BecomesSmall.ne_nil {c : Char} {small : Text} (h : BecomesSmall c small) : small ≠ [] := by
  cases h <;> exact List.cons_ne_nil _ _

theorem length_asciiLower_le : ∀ (behindLetter : Bool) (s : Text),
    (asciiLower s).length ≤ (lowercaseAfter behindLetter s).length
  | _, [] => Nat.le_refl 0
  | behindLetter, c :: rest => by
    obtain ⟨small, behindNext, hsmall, heq⟩ := lowercaseAfter_cons behindLetter c rest
    have hpos := List.length_pos_iff.2 hsmall.ne_nil
    have hrest := length_asciiLower_le behindNext rest
    have hlower : asciiLower (c :: rest) = c.toLower :: asciiLower rest := rfl
    rw [heq, hlower, List.length_append, List.length_cons]
    omega

/-- The small letters of a text are such a text where its small ASCII letters are. -/
theorem lowercase_eq_iff {w : Text} (hw : FromAscii w) (hascii : ∀ c ∈ w, c.toNat < 128) {s : Text} :
    lowercase s = w ↔ asciiLower s = w := by
  constructor
  · intro h
    have hbegins : w <+: asciiLower s := (prefix_lowercaseAfter_iff hw false s).1 (h ▸ List.prefix_rfl)
    exact (hbegins.eq_of_length_le (h ▸ length_asciiLower_le false s)).symm
  · rintro rfl
    exact lowercase_of_ascii hascii

theorem toLower_of_small {c : Char} (h : lowerChar c = [c]) : c.toLower = c := by
  by_cases hascii : c.toNat < 128
  · rw [lowerChar_of_ascii hascii] at h
    exact List.singleton_inj.1 h
  · delta Char.toLower
    refine dif_neg fun upper => ?_
    have : c.toNat ≤ 90 := UInt32.le_iff_toNat_le.1 upper.2
    omega

theorem asciiLower_lowercase (s : Text) : asciiLower (lowercase s) = lowercase s :=
  (List.map_congr_left fun c hc => toLower_of_small (small_of_mem_lowercaseAfter false c hc)).trans (List.map_id _)

end Text
end ImportDispatch
