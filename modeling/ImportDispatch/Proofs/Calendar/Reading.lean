import Mathlib.Data.List.TakeWhile
import ImportDispatch.Calendar.TimeText
import ImportDispatch.Proofs.Attempt
import ImportDispatch.Proofs.Calendar.Stamp
/-!
# Times, read back

Every number of a written time is read back with what follows it, whether it has a fixed width or, as a year with its
sign, ends where the digits end.  So the whole text is read back as its numbers (`readParts_wireText`), and these make
the time again: the day is one of the month, and a leap second stands in the last second of its minute.
-/
namespace ImportDispatch
namespace LocalTime

variable {rest : Text}

/-! ## Numbers -/

theorem not_blank_of_isDigit {c : Char} (h : Decimal.isDigit c = true) : Text.isBlankChar c = false := by
  simp only [Decimal.isDigit, Bool.and_eq_true, decide_eq_true_eq, Char.le_def] at h
  have hc : 48 ≤ c.toNat ∧ c.toNat ≤ 57 := ⟨h.1, h.2⟩
  simp [Text.isBlankChar]
  omega

theorem trimStart_cons {c : Char} (h : Text.isBlankChar c = false) : trimStart (c :: rest) = c :: rest :=
  List.dropWhile_cons_of_neg (by simp [h])

theorem trimStart_digits {digits : Text} (hne : digits ≠ []) (hdigits : ∀ c ∈ digits, Decimal.isDigit c = true) :
    trimStart (digits ++ rest) = digits ++ rest := by
  cases digits with
  | nil => exact absurd rfl hne
  | cons c digits => exact trimStart_cons (not_blank_of_isDigit (hdigits c List.mem_cons_self))

/-- No digit stands in front. -/
def EndsNumber (rest : Text) : Prop := rest.takeWhile Decimal.isDigit = []

theorem takeWhile_digits {digits : Text} (hdigits : ∀ c ∈ digits, Decimal.isDigit c = true) (rest : Text) :
    (digits ++ rest).takeWhile Decimal.isDigit = digits ++ rest.takeWhile Decimal.isDigit :=
  List.takeWhile_append_of_pos hdigits

/-- A number is read to its width or to the end of its digits. -/
theorem readDigits_append {most : Nat} {digits : Text} (hne : digits ≠ [])
    (hdigits : ∀ c ∈ digits, Decimal.isDigit c = true)
    (hends : digits.length = most ∨ digits.length ≤ most ∧ EndsNumber rest) :
    readDigits most (digits ++ rest) = .ok (Decimal.valueOf digits, rest) := by
  have htaken : ((digits ++ rest).takeWhile Decimal.isDigit).take most = digits := by
    rw [takeWhile_digits hdigits]
    rcases hends with hwidth | ⟨hwidth, hrest⟩
    · rw [← hwidth, List.take_left]
    · rw [hrest, List.append_nil, List.take_of_length_le hwidth]
  simp only [readDigits, htaken, List.isEmpty_eq_false_iff.2 hne, List.drop_left, Bool.false_eq_true, if_false]

theorem readDigits_padded {width n : Nat} (hwidth : 0 < width) (hn : n < Nat.pow 10 width) :
    readDigits width (Decimal.padded width n ++ rest) = .ok (n, rest) := by
  rw [readDigits_append (Decimal.padded_ne_nil width n) (fun _ => Decimal.isDigit_of_mem_padded)
    (.inl (Decimal.length_padded hwidth hn)), Decimal.valueOf_padded]

theorem readPart_padded {least largest n : Nat} (hleast : least ≤ n) (hlargest : n ≤ largest) (hn : n < 100) :
    readPart least largest (Decimal.padded 2 n ++ rest) = .ok (n, rest) := by
  rw [readPart, trimStart_digits (Decimal.padded_ne_nil 2 n) (fun _ => Decimal.isDigit_of_mem_padded),
    readDigits_padded (by decide) hn]
  simp [hleast, hlargest, bind, Except.bind, pure, Except.pure]

theorem readMark_trimStart (mark : Char) (h : Text.isBlankChar mark = false) :
    readMark mark (trimStart (mark :: rest)) = .ok rest := by
  rw [trimStart_cons h, readMark, if_pos rfl]

theorem endsNumber_cons {c : Char} (h : Decimal.isDigit c = false) : EndsNumber (c :: rest) :=
  List.takeWhile_cons_of_neg (by simp [h])

theorem endsNumber_nil : EndsNumber [] := rfl

/-! ## Dates -/

theorem readYear_digits {digits : Text} {n : Nat} (hne : digits ≠ [])
    (hdigits : ∀ c ∈ digits, Decimal.isDigit c = true) (hread : readDigits 4 (digits ++ rest) = .ok (n, rest))
    (hn : n ≤ 9999) : readYear (digits ++ rest) = .ok ((n : Int), rest) := by
  rw [readYear, trimStart_digits hne hdigits]
  cases digits with
  | nil => exact absurd rfl hne
  | cons c digits =>
    have hc := hdigits c List.mem_cons_self
    split
    · rename_i heq
      rw [(List.cons.inj heq).1] at hc
      cases hc
    · rename_i heq
      rw [(List.cons.inj heq).1] at hc
      cases hc
    · simp only [hread, bind, Except.bind, pure, Except.pure]
      rw [if_pos (by simp; omega)]

/-- A year is read back in each of its three forms. -/
theorem readYear_yearText {year : Int} (hleast : -2147483648 ≤ year) (hlargest : year ≤ 2147483647)
    (hrest : EndsNumber rest) : readYear (yearText year ++ rest) = .ok (year, rest) := by
  have hsigned : ∀ n, readDigits (Decimal.padded 4 n ++ rest).length (Decimal.padded 4 n ++ rest) = .ok (n, rest) := by
    intro n
    rw [readDigits_append (Decimal.padded_ne_nil 4 n) (fun _ => Decimal.isDigit_of_mem_padded)
      (.inr ⟨by rw [List.length_append]; omega, hrest⟩), Decimal.valueOf_padded]
  have hbounds : (decide (-2147483648 ≤ year) && decide (year ≤ 2147483647)) = true := by
    simp [hleast, hlargest]
  rw [yearText]
  by_cases hshort : 0 ≤ year ∧ year ≤ 9999
  · have hread : readDigits 4 (Decimal.padded 4 year.natAbs ++ rest) = .ok (year.natAbs, rest) :=
      readDigits_padded (by decide) (show year.natAbs < 10000 by omega)
    rw [if_pos (by simpa using hshort), readYear_digits (Decimal.padded_ne_nil 4 _)
      (fun _ => Decimal.isDigit_of_mem_padded) hread (by omega), Int.natAbs_of_nonneg hshort.1]
  · rw [if_neg (by simpa using hshort)]
    by_cases hneg : year < 0
    · rw [if_pos hneg, List.cons_append, readYear, trimStart_cons (by decide)]
      have hyear : -(year.natAbs : Int) = year := by omega
      simp only [hsigned, bind, Except.bind, pure, Except.pure, hyear]
      rw [if_pos hbounds]
    · rw [if_neg hneg, List.cons_append, readYear, trimStart_cons (by decide)]
      have hyear : (year.natAbs : Int) = year := by omega
      simp only [hsigned, bind, Except.bind, pure, Except.pure, hyear]
      rw [if_pos hbounds]

/-! ## Fractions -/

theorem readFraction_digits {width n nano : Nat} (hwidth : 0 < width) (hmost : width ≤ 9) (hn : n < Nat.pow 10 width)
    (hnano : n * Nat.pow 10 (9 - width) = nano) : readFraction ('.' :: Decimal.padded width n) = .ok (nano, []) := by
  have hdigits : ∀ c ∈ Decimal.padded width n, Decimal.isDigit c = true := fun _ => Decimal.isDigit_of_mem_padded
  have hlength := Decimal.length_padded hwidth hn
  have hread : readDigits 9 (Decimal.padded width n) = .ok (n, []) := by
    have : readDigits 9 (Decimal.padded width n ++ []) = .ok (Decimal.valueOf (Decimal.padded width n), []) :=
      readDigits_append (Decimal.padded_ne_nil width n) hdigits (.inr ⟨by omega, endsNumber_nil⟩)
    rwa [List.append_nil, Decimal.valueOf_padded] at this
  rw [readFraction, hread, List.takeWhile_eq_self_iff.2 hdigits, List.dropWhile_eq_nil_iff.2 hdigits, hlength]
  simp only [bind, Except.bind, pure, Except.pure, Nat.min_eq_right hmost, hnano]

theorem readFraction_fractionText {nano : Nat} (h : nano < 1000000000) :
    readFraction (fractionText nano) = .ok (nano, []) := by
  rw [fractionText]
  by_cases hnone : nano = 0
  · rw [if_pos hnone, hnone]
    rfl
  rw [if_neg hnone]
  by_cases hthousandths : nano % 1000000 = 0
  · rw [if_pos hthousandths]
    exact readFraction_digits (by decide) (by decide) (show nano / 1000000 < 1000 by omega)
      (show nano / 1000000 * 1000000 = nano by omega)
  rw [if_neg hthousandths]
  by_cases hmillionths : nano % 1000 = 0
  · rw [if_pos hmillionths]
    exact readFraction_digits (by decide) (by decide) (show nano / 1000 < 1000000 by omega)
      (show nano / 1000 * 1000 = nano by omega)
  · rw [if_neg hmillionths]
    exact readFraction_digits (by decide) (by decide) h (show nano * 1 = nano by omega)

/-! ## Whole readings -/

theorem readParts_wireText (t : LocalTime) :
    readParts t.wireText = .ok (⟨(Day.civil t.day).year, (Day.civil t.day).month.natAbs, (Day.civil t.day).day.natAbs,
      t.second / 3600, t.second / 60 % 60, t.secondOfMinute, t.nano % 1000000000⟩, []) := by
  have hyear := Day.year_bounds t.day_ge t.day_le
  have hdate := Day.civil_bounds t.day
  have hsecond := t.second_lt
  have hs := t.secondOfMinute_le
  simp only [wireText, text, dateText, hourMinuteText, List.append_assoc, List.cons_append]
  rw [readParts, readYear_yearText (by omega) (by omega) (endsNumber_cons (by decide))]
  simp only [bind, Except.bind, readMark_trimStart '-' (by decide)]
  rw [readPart_padded (by omega) (by omega) (by omega)]
  simp only [readMark_trimStart '-' (by decide)]
  rw [readPart_padded (by omega) (by omega) (by omega)]
  simp only [readMark_trimStart 'T' (by decide)]
  rw [readPart_padded (by omega) (by omega) (by omega)]
  simp only [readMark_trimStart ':' (by decide)]
  rw [readPart_padded (by omega) (by omega) (by omega)]
  simp only [readMark_trimStart ':' (by decide)]
  rw [readPart_padded (by omega) (by omega) (by omega)]
  simp only [readFraction_fractionText (Nat.mod_lt t.nano (show 0 < 1000000000 by decide))]
  rfl

/-- A leap second is only counted at the end of a minute. -/
def LeapAtEnd (t : LocalTime) : Prop := t.nano < 1000000000 ∨ t.second % 60 = 59

/-- **A time that has no leap second within a minute is read back from its form on the wire.** -/
theorem ofText_wireText {t : LocalTime} (h : t.LeapAtEnd) : ofText t.wireText = .ok t := by
  have hdate := Day.civil_bounds t.day
  have hmonth : ((Day.civil t.day).month.natAbs : Int) = (Day.civil t.day).month := by omega
  have hday : ((Day.civil t.day).day.natAbs : Int) = (Day.civil t.day).day := by omega
  have hnano := t.nano_lt
  have hsecond := t.second_lt
  have htime : Parts.time? ⟨(Day.civil t.day).year, (Day.civil t.day).month.natAbs, (Day.civil t.day).day.natAbs,
      t.second / 3600, t.second / 60 % 60, t.secondOfMinute, t.nano % 1000000000⟩ = some t := by
    have hclock : t.second / 3600 * 3600 + t.second / 60 % 60 * 60 + min t.secondOfMinute 59 = t.second := by
      unfold LeapAtEnd at h
      unfold secondOfMinute
      omega
    have hfraction :
        (if t.secondOfMinute = 60 then t.nano % 1000000000 + 1000000000 else t.nano % 1000000000) = t.nano := by
      unfold LeapAtEnd at h
      unfold secondOfMinute
      split <;> omega
    simp only [Parts.time?, hmonth, hday, hclock, hfraction]
    rw [if_pos (Day.day_le_monthLength t.day), Day.ofCivil_civil, make?_parts]
  rw [ofText, readParts_wireText]
  simp [bind, Except.bind, htime, Text.isBlank]

theorem readDigits_lt {most n : Nat} {s : Text} (h : readDigits most s = .ok (n, rest)) :
    n < Nat.pow 10 (min most (s.takeWhile Decimal.isDigit).length) := by
  rw [readDigits] at h
  split at h
  · cases h
  · cases h
    rw [← List.length_take]
    exact Decimal.valueOf_lt fun c hc => List.mem_takeWhile_imp (List.mem_of_mem_take hc)

theorem readFraction_lt {s : Text} {nano : Nat} (h : readFraction s = .ok (nano, rest)) : nano < 1000000000 := by
  rw [readFraction.eq_def] at h
  split at h
  · rename_i digits
    obtain ⟨⟨n, _⟩, hread, h⟩ := Attempt.bind_eq_ok h
    have hn := readDigits_lt hread
    generalize hwidth : min 9 (digits.takeWhile Decimal.isDigit).length = width at h hn
    cases h
    calc n * Nat.pow 10 (9 - width)
        < Nat.pow 10 width * Nat.pow 10 (9 - width) := Nat.mul_lt_mul_of_pos_right hn (Nat.pow_pos (by decide))
      _ = Nat.pow 10 (width + (9 - width)) := (Nat.pow_add 10 width (9 - width)).symm
      _ = 1000000000 := by rw [show width + (9 - width) = 9 by omega]
  · cases h
    decide

/-- A time that was read has no leap second within a minute. -/
theorem leapAtEnd_of_ofText {s : Text} {t : LocalTime} (h : ofText s = .ok t) : t.LeapAtEnd := by
  obtain ⟨⟨parts, _⟩, hparts, h⟩ := Attempt.bind_eq_ok h
  have hnano : parts.nano < 1000000000 := by
    rw [readParts] at hparts
    -- the numbers and marks in front of the fraction
    iterate 11 obtain ⟨_, -, hparts⟩ := Attempt.bind_eq_ok hparts
    obtain ⟨⟨nano, _⟩, hfraction, hparts⟩ := Attempt.bind_eq_ok hparts
    cases hparts
    exact readFraction_lt hfraction
  have htime : parts.time? = some t := by
    dsimp only at h
    split at h
    · cases h
    · split at h
      · cases h
        assumption
      · cases h
  rw [Parts.time?] at htime
  split at htime
  · obtain ⟨-, hs, hn⟩ := make?_eq_some htime
    unfold LeapAtEnd
    split at hn <;> omega
  · cases htime

end LocalTime
end ImportDispatch
