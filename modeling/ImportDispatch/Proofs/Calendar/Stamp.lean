import ImportDispatch.Calendar.TimeText
import ImportDispatch.Proofs.Calendar.Dates
import ImportDispatch.Proofs.Decimal
/-!
# The stamp of a reading

The stamp in a job id drops all but two digits of the year.  It still tells the second of a reading from every other
second of the same hundred years (`stampText_eq_iff`), and since clocks do not go backwards the readings with one stamp
are not interrupted by others (`ticks_le_of_not_before`).
-/
namespace ImportDispatch
namespace Decimal

theorem padded_two (n : Nat) (hn : n < 100) :
    (padded 2 n).length = 2 ∧ (∀ c ∈ padded 2 n, isDigit c = true) ∧ valueOf (padded 2 n) = n :=
  ⟨length_padded (by decide) hn, fun _ => isDigit_of_mem_padded, valueOf_padded 2 n⟩

theorem padded_two_injective {m n : Nat} (hm : m < 100) (hn : n < 100) (h : padded 2 m = padded 2 n) : m = n := by
  rw [← (padded_two m hm).2.2, h, (padded_two n hn).2.2]

end Decimal

namespace LocalTime

def year (t : LocalTime) : Int := (Day.civil t.day).year

/-- The seconds of clocks up to a reading, with room for a leap second in every minute. -/
def ticks (t : LocalTime) : Int := (t.day * 1440 + t.second / 60) * 61 + t.secondOfMinute

theorem secondOfMinute_le (t : LocalTime) : t.secondOfMinute ≤ 60 := by
  have := t.nano_lt
  unfold secondOfMinute
  omega

theorem ticks_eq_iff {s t : LocalTime} :
    s.ticks = t.ticks ↔ s.day = t.day ∧ s.second / 60 = t.second / 60 ∧ s.secondOfMinute = t.secondOfMinute := by
  have hs := s.second_lt
  have ht := t.second_lt
  have hs' := s.secondOfMinute_le
  have ht' := t.secondOfMinute_le
  unfold ticks
  omega

/-- **Clocks that do not go backwards do not count backwards.** -/
theorem ticks_le_of_not_before {s t : LocalTime} (h : t.before s = false) : s.ticks ≤ t.ticks := by
  have hs := s.second_lt
  have hs' := s.nano_lt
  simp only [before, Bool.or_eq_false_iff, Bool.and_eq_false_iff, decide_eq_false_iff_not, beq_eq_false_iff_ne] at h
  unfold ticks secondOfMinute
  omega

theorem not_before_self (t : LocalTime) : t.before t = false := by simp [before]

theorem not_before_trans {s t u : LocalTime} (h : t.before s = false) (h' : u.before t = false) :
    u.before s = false := by
  simp only [before, Bool.or_eq_false_iff, Bool.and_eq_false_iff, decide_eq_false_iff_not,
    beq_eq_false_iff_ne] at h h' ⊢
  omega

def stampDate (t : LocalTime) : Text :=
  Decimal.padded 2 ((Day.civil t.day).year % 100).natAbs ++ Decimal.padded 2 (Day.civil t.day).month.natAbs ++
    Decimal.padded 2 (Day.civil t.day).day.natAbs

def stampClock (t : LocalTime) : Text :=
  Decimal.padded 2 (t.second / 3600) ++ Decimal.padded 2 (t.second / 60 % 60) ++ Decimal.padded 2 t.secondOfMinute

theorem stampText_eq (t : LocalTime) : t.stampText = t.stampDate ++ '-' :: t.stampClock := by
  simp only [stampText, stampDate, stampClock, List.append_assoc, List.cons_append]

theorem six_digits {a b c : Nat} (ha : a < 100) (hb : b < 100) (hc : c < 100) :
    (Decimal.padded 2 a ++ Decimal.padded 2 b ++ Decimal.padded 2 c).length = 6 ∧
      ∀ d ∈ Decimal.padded 2 a ++ Decimal.padded 2 b ++ Decimal.padded 2 c, Decimal.isDigit d = true := by
  obtain ⟨ha1, ha2, -⟩ := Decimal.padded_two a ha
  obtain ⟨hb1, hb2, -⟩ := Decimal.padded_two b hb
  obtain ⟨hc1, hc2, -⟩ := Decimal.padded_two c hc
  refine ⟨by simp only [List.length_append, ha1, hb1, hc1], fun d hd => ?_⟩
  rcases List.mem_append.1 hd with hd | hd
  · rcases List.mem_append.1 hd with hd | hd
    · exact ha2 d hd
    · exact hb2 d hd
  · exact hc2 d hd

theorem six_digits_injective {a b c a' b' c' : Nat} (ha : a < 100) (hb : b < 100) (hc : c < 100) (ha' : a' < 100)
    (hb' : b' < 100) (hc' : c' < 100)
    (h : Decimal.padded 2 a ++ Decimal.padded 2 b ++ Decimal.padded 2 c =
      Decimal.padded 2 a' ++ Decimal.padded 2 b' ++ Decimal.padded 2 c') : a = a' ∧ b = b' ∧ c = c' := by
  have hlen : ∀ n < 100, (Decimal.padded 2 n).length = 2 := fun n hn => (Decimal.padded_two n hn).1
  obtain ⟨h12, h3⟩ := List.append_inj h
    (by simp only [List.length_append, hlen a ha, hlen b hb, hlen a' ha', hlen b' hb'])
  obtain ⟨h1, h2⟩ := List.append_inj h12 (by rw [hlen a ha, hlen a' ha'])
  exact ⟨Decimal.padded_two_injective ha ha' h1, Decimal.padded_two_injective hb hb' h2,
    Decimal.padded_two_injective hc hc' h3⟩

/-- What a stamp shows has two digits each. -/
theorem stamp_lt (t : LocalTime) : ((Day.civil t.day).year % 100).natAbs < 100 ∧ (Day.civil t.day).month.natAbs < 100 ∧
    (Day.civil t.day).day.natAbs < 100 ∧ t.second / 3600 < 100 ∧ t.second / 60 % 60 < 100 ∧ t.secondOfMinute < 100 := by
  have hd := Day.civil_bounds t.day
  have hs := t.second_lt
  have hm := t.secondOfMinute_le
  omega

theorem stampDate_digits (t : LocalTime) : t.stampDate.length = 6 ∧ ∀ c ∈ t.stampDate, Decimal.isDigit c = true :=
  six_digits t.stamp_lt.1 t.stamp_lt.2.1 t.stamp_lt.2.2.1

theorem stampClock_digits (t : LocalTime) : t.stampClock.length = 6 ∧ ∀ c ∈ t.stampClock, Decimal.isDigit c = true :=
  six_digits t.stamp_lt.2.2.2.1 t.stamp_lt.2.2.2.2.1 t.stamp_lt.2.2.2.2.2

/-- **Within a hundred years a stamp tells the second.** -/
theorem stampText_eq_iff {s t : LocalTime} (hcentury : (s.year - t.year).natAbs < 100) :
    s.stampText = t.stampText ↔ s.ticks = t.ticks := by
  rw [stampText_eq, stampText_eq, ticks_eq_iff]
  have hs := s.stamp_lt
  have ht := t.stamp_lt
  constructor
  · intro h
    obtain ⟨hdate, hclock⟩ := List.append_inj h (by rw [s.stampDate_digits.1, t.stampDate_digits.1])
    rw [List.cons.injEq] at hclock
    obtain ⟨hy, hm, hd⟩ := six_digits_injective hs.1 hs.2.1 hs.2.2.1 ht.1 ht.2.1 ht.2.2.1 hdate
    obtain ⟨hh, hi, hsec⟩ := six_digits_injective hs.2.2.2.1 hs.2.2.2.2.1 hs.2.2.2.2.2 ht.2.2.2.1 ht.2.2.2.2.1
      ht.2.2.2.2.2 hclock.2
    have hsb := Day.civil_bounds s.day
    have htb := Day.civil_bounds t.day
    unfold year at hcentury
    have hcivil : Day.civil s.day = Day.civil t.day := by
      rw [Day.Civil.mk.injEq]
      omega
    refine ⟨Day.civil_injective hcivil, by omega, hsec⟩
  · rintro ⟨hday, hminute, hsec⟩
    have hhour : s.second / 3600 = t.second / 3600 := by omega
    unfold stampDate stampClock
    rw [hday, hhour, hminute, hsec]

/-- A reading in the minute that begins at 14:05 on 9 March 2016. -/
def sample (second : Nat) : LocalTime := ⟨16869, 50700 + second % 60, 0, by decide, by decide, by omega, by decide⟩

end LocalTime
end ImportDispatch
