import ImportDispatch.Decimal
import ImportDispatch.Word
/-!
# Numbers and their digits

A number is read back from its digits, also behind leading zeros, and a width is kept by the numbers that fit it.  What
a word with a sign holds are the numbers of 64 bits.
-/
namespace ImportDispatch
namespace Decimal

theorem valueOf_eq (digits : Text) : valueOf digits = Nat.ofDigitChars 10 digits 0 := rfl

theorem isDigit_of_mem_ofNat {n : Nat} {c : Char} (h : c ∈ ofNat n) : isDigit c = true :=
  Nat.isDigit_of_mem_toDigits (by decide) (by decide) h

@[simp] theorem valueOf_ofNat (n : Nat) : valueOf (ofNat n) = n :=
  Nat.ofDigitChars_ten_toDigits

@[simp] theorem ofNat_ne_nil (n : Nat) : ofNat n ≠ [] :=
  Nat.toDigits_ne_nil

theorem not_mem_ofNat {c : Char} (hc : isDigit c = false) (n : Nat) : c ∉ ofNat n := fun h => by
  rw [isDigit_of_mem_ofNat h] at hc
  cases hc

theorem not_mem_ofInt {c : Char} (hc : isDigit c = false) (hsign : c ≠ '-') (n : Int) : c ∉ ofInt n := by
  unfold ofInt
  split
  · rw [List.mem_cons, not_or]
    exact ⟨hsign, not_mem_ofNat hc _⟩
  · exact not_mem_ofNat hc _

theorem toNat?_ofNat (n : Nat) : toNat? (ofNat n) = some n := by
  have hdigits : (ofNat n).all isDigit = true := List.all_eq_true.2 fun _ => isDigit_of_mem_ofNat
  have hsome : (ofNat n).isEmpty = false := by simp
  rw [toNat?, hdigits, hsome, valueOf_ofNat]
  rfl

theorem isDigit_of_mem_padded {width n : Nat} {c : Char} (h : c ∈ padded width n) : isDigit c = true := by
  rcases List.mem_append.1 h with h | h
  · rw [List.eq_of_mem_replicate h]
    decide
  · exact isDigit_of_mem_ofNat h

@[simp] theorem valueOf_padded (width n : Nat) : valueOf (padded width n) = n := by
  rw [padded, valueOf_eq, Nat.ofDigitChars_append, Nat.ofDigitChars_replicate_zero, Nat.mul_zero, ← valueOf_eq,
    valueOf_ofNat]

@[simp] theorem padded_ne_nil (width n : Nat) : padded width n ≠ [] :=
  List.append_ne_nil_of_right_ne_nil _ (ofNat_ne_nil n)

theorem length_padded {width n : Nat} (hwidth : 0 < width) (hn : n < Nat.pow 10 width) :
    (padded width n).length = width := by
  have : (ofNat n).length ≤ width := (Nat.length_toDigits_le_iff (by decide) hwidth).2 hn
  rw [padded, List.length_append, List.length_replicate]
  omega

theorem foldl_digits_lt : ∀ (digits : Text) (n : Nat), (∀ c ∈ digits, isDigit c = true) →
    digits.foldl (fun n c => 10 * n + digitValue c) n < (n + 1) * Nat.pow 10 digits.length
  | [], n, _ => by simp
  | c :: digits, n, h => by
    have hc : isDigit c = true := h c List.mem_cons_self
    simp only [isDigit, Bool.and_eq_true, decide_eq_true_eq, Char.le_def] at hc
    have hvalue : digitValue c ≤ 9 := Nat.sub_le_iff_le_add.2 hc.2
    have hrest := foldl_digits_lt digits (10 * n + digitValue c) (fun d hd => h d (List.mem_cons_of_mem c hd))
    rw [List.foldl_cons, List.length_cons]
    calc digits.foldl (fun n c => 10 * n + digitValue c) (10 * n + digitValue c)
        < (10 * n + digitValue c + 1) * Nat.pow 10 digits.length := hrest
      _ ≤ ((n + 1) * 10) * Nat.pow 10 digits.length := Nat.mul_le_mul_right _ (by omega)
      _ = (n + 1) * Nat.pow 10 (digits.length + 1) := by
        rw [Nat.mul_assoc, Nat.mul_comm 10]
        rfl

theorem valueOf_lt {digits : Text} (h : ∀ c ∈ digits, isDigit c = true) :
    valueOf digits < Nat.pow 10 digits.length := by
  have := foldl_digits_lt digits 0 h
  rwa [Nat.zero_add, Nat.one_mul] at this

end Decimal

theorem Word.holdsSigned_iff {n : Int} :
    holdsSigned n = true ↔ -9223372036854775808 ≤ n ∧ n ≤ 9223372036854775807 := by
  rw [holdsSigned, Bool.and_eq_true, decide_eq_true_eq, decide_eq_true_eq, leastSigned, largestSigned]

theorem Word.holdsSigned_toInt (n : Int64) : holdsSigned n.toInt = true := by
  have hleast := n.le_toInt
  have hlargest := n.toInt_lt
  rw [holdsSigned_iff]
  omega

end ImportDispatch
