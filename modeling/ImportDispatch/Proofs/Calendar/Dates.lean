import ImportDispatch.Calendar
/-!
# Dates

The date of a day is a date of the calendar: its month is one of the twelve and has that day (`day_le_monthLength`), its
year is one that a schedule may name, and the day of the date is the day again (`ofCivil_civil`).  A time is made of a
second count exactly when the calendar has it (`ofSeconds?_eq_some`).
-/
namespace ImportDispatch
namespace Day

theorem yearOfRun_bounds (inRun : Int) (h0 : 0 ≤ inRun) (h1 : inRun < 146097) :
    0 ≤ (inRun - inRun / 1460 + inRun / 36524 - inRun / 146096) / 365 ∧
      (inRun - inRun / 1460 + inRun / 36524 - inRun / 146096) / 365 < 400 := by
  omega

theorem century_of_run (inRun year : Int) (h0 : 0 ≤ inRun) (h1 : inRun < 146096)
    (hy : year = (inRun - inRun / 1460 + inRun / 36524 - inRun / 146096) / 365) : year / 100 = inRun / 36524 := by
  have hc : inRun / 36524 = 0 ∨ inRun / 36524 = 1 ∨ inRun / 36524 = 2 ∨ inRun / 36524 = 3 := by omega
  rcases hc with hc | hc | hc | hc <;> omega

theorem inYear_bounds (inRun year : Int) (h0 : 0 ≤ inRun) (h1 : inRun < 146097)
    (hy : year = (inRun - inRun / 1460 + inRun / 36524 - inRun / 146096) / 365) :
    0 ≤ inRun - (365 * year + year / 4 - year / 100) ∧ inRun - (365 * year + year / 4 - year / 100) ≤ 365 := by
  by_cases he : inRun = 146096
  · subst he
    omega
  · have := century_of_run inRun year h0 (by omega) hy
    omega

theorem isLeapYear_iff {year : Int} :
    isLeapYear year = true ↔ year % 4 = 0 ∧ (year % 100 ≠ 0 ∨ year % 400 = 0) := by
  simp [isLeapYear]

/-- Only a year that ends with a leap day has a three hundred and sixty-sixth day. -/
theorem leap_of_inYear_eq (inRun year : Int) (h0 : 0 ≤ inRun) (h1 : inRun < 146097)
    (hy : year = (inRun - inRun / 1460 + inRun / 36524 - inRun / 146096) / 365)
    (hlast : inRun - (365 * year + year / 4 - year / 100) = 365) : isLeapYear (year + 1) = true := by
  rw [isLeapYear_iff]
  refine Decidable.byContradiction fun hleap => ?_
  obtain ⟨hy0, hy1⟩ := yearOfRun_bounds inRun h0 h1
  rw [← hy] at hy0 hy1
  -- otherwise the day is the first of the next year
  have hstart : inRun = 365 * (year + 1) + (year + 1) / 4 - (year + 1) / 100 := by
    by_cases hfour : (year + 1) % 4 = 0
    · have : (year + 1) / 4 = year / 4 + 1 := by omega
      have : (year + 1) / 100 = year / 100 + 1 := by omega
      omega
    · have hcentury : (year + 1) % 100 ≠ 0 := fun h => hfour (by omega)
      have : (year + 1) / 4 = year / 4 := by omega
      have : (year + 1) / 100 = year / 100 := by omega
      omega
  have hlt : year + 1 < 400 := by omega
  have hfour : inRun / 1460 ≤ (year + 1) / 4 := by omega
  have hcentury : (year + 1) / 100 ≤ inRun / 36524 := by omega
  have hrun : inRun / 146096 = 0 := by omega
  clear hlast hleap
  omega

/-- A date in the years that start in March: the run of four hundred years, the year in it, and the day of that year. -/
theorem exists_civil (day : Int) : ∃ run year inYear : Int, 0 ≤ year ∧ year < 400 ∧ 0 ≤ inYear ∧ inYear ≤ 365 ∧
    (inYear = 365 → isLeapYear (year + run * 400 + 1) = true) ∧
    day + 719468 = run * 146097 + (year * 365 + year / 4 - year / 100 + inYear) ∧
    civil day =
      let shifted := (5 * inYear + 2) / 153
      let month := if shifted < 10 then shifted + 3 else shifted - 9
      ⟨if month ≤ 2 then year + run * 400 + 1 else year + run * 400, month, inYear - beforeMonth shifted + 1⟩ := by
  have h0 : 0 ≤ (day + 719468) % 146097 := by omega
  have h1 : (day + 719468) % 146097 < 146097 := by omega
  obtain ⟨hy0, hy1⟩ := yearOfRun_bounds _ h0 h1
  obtain ⟨hd0, hd1⟩ := inYear_bounds _ _ h0 h1 rfl
  refine ⟨(day + 719468) / 146097, _, _, hy0, hy1, hd0, hd1, fun hlast => ?_, ?_, rfl⟩
  · have := leap_of_inYear_eq _ _ h0 h1 rfl hlast
    rw [isLeapYear_iff] at this ⊢
    omega
  · omega

theorem civil_bounds (day : Int) :
    1 ≤ (civil day).month ∧ (civil day).month ≤ 12 ∧ 1 ≤ (civil day).day ∧ (civil day).day ≤ 31 := by
  obtain ⟨run, year, inYear, -, -, hd0, hd1, -, -, hc⟩ := exists_civil day
  rw [hc]
  simp only [beforeMonth]
  have hs : 0 ≤ (5 * inYear + 2) / 153 ∧ (5 * inYear + 2) / 153 ≤ 11 := by omega
  split <;> omega

/-- **A day is the day of its date.** -/
theorem ofCivil_civil (day : Int) : ofCivil (civil day).year (civil day).month (civil day).day = day := by
  obtain ⟨run, year, inYear, hy0, hy1, hd0, hd1, -, hday, hc⟩ := exists_civil day
  rw [hc]
  simp only [ofCivil]
  have hs : 0 ≤ (5 * inYear + 2) / 153 ∧ (5 * inYear + 2) / 153 ≤ 11 := by omega
  generalize (5 * inYear + 2) / 153 = shifted at hs
  have hmonth : ((if shifted < 10 then shifted + 3 else shifted - 9) + 9) % 12 = shifted := by split <;> omega
  generalize (if shifted < 10 then shifted + 3 else shifted - 9) = month at hmonth
  have hyear : (if month ≤ 2 then (if month ≤ 2 then year + run * 400 + 1 else year + run * 400) - 1
      else (if month ≤ 2 then year + run * 400 + 1 else year + run * 400)) = year + run * 400 := by
    split <;> omega
  rw [hmonth, hyear]
  omega

/-- **The day of a date is one that its month has.** -/
theorem day_le_monthLength (day : Int) : (civil day).day ≤ monthLength (civil day).year (civil day).month := by
  obtain ⟨run, year, inYear, -, -, hd0, hd1, hleap, -, hc⟩ := exists_civil day
  rw [hc]
  simp only [beforeMonth, monthLength]
  by_cases hfebruary : (5 * inYear + 2) / 153 = 11
  · have hd : isLeapYear (year + run * 400 + 1) = true ∨ inYear ≤ 364 := by
      by_cases hlast : inYear = 365
      · exact .inl (hleap hlast)
      · exact .inr (by omega)
    rw [hfebruary]
    rcases hd with hd | hd
    · simp [hd]
      omega
    · simp
      split <;> omega
  · generalize hshifted : (5 * inYear + 2) / 153 = shifted at hfebruary
    have : shifted = 0 ∨ shifted = 1 ∨ shifted = 2 ∨ shifted = 3 ∨ shifted = 4 ∨ shifted = 5 ∨ shifted = 6 ∨
        shifted = 7 ∨ shifted = 8 ∨ shifted = 9 ∨ shifted = 10 := by omega
    rcases this with rfl | rfl | rfl | rfl | rfl | rfl | rfl | rfl | rfl | rfl | rfl <;> simp <;> omega

theorem year_bounds {day : Int} (h : first ≤ day) (h' : day ≤ last) :
    -262143 ≤ (civil day).year ∧ (civil day).year ≤ 262142 := by
  obtain ⟨run, year, inYear, hy0, hy1, hd0, hd1, -, hday, hc⟩ := exists_civil day
  have hfirst : first = -96465292 := by decide
  have hlast : last = 95026236 := by decide
  rw [hfirst] at h
  rw [hlast] at h'
  rw [hc]
  have hrun : -656 ≤ run ∧ run ≤ 655 := by omega
  have hfewer : run = 655 → year ≤ 142 := by rintro rfl; omega
  have hend : run = 655 → year = 142 → inYear ≤ 305 := by rintro rfl rfl; omega
  simp only
  split <;> split <;> omega

theorem civil_injective {d e : Int} (h : civil d = civil e) : d = e := by
  rw [← ofCivil_civil d, h, ofCivil_civil e]

end Day

namespace LocalTime

theorem make?_eq_some {day : Int} {second nano : Nat} {t : LocalTime} (h : make? day second nano = some t) :
    t.day = day ∧ t.second = second ∧ t.nano = nano := by
  unfold make? at h
  split at h
  · cases h
    exact ⟨rfl, rfl, rfl⟩
  · cases h

theorem make?_parts (t : LocalTime) : make? t.day t.second t.nano = some t :=
  dif_pos ⟨⟨t.day_ge, t.day_le⟩, t.second_lt, t.nano_lt⟩

theorem ofSeconds?_seconds (t : LocalTime) : ofSeconds? t.seconds t.nano = some t := by
  have hsecond := t.second_lt
  have hday : (t.day * 86400 + t.second) / 86400 = t.day := by omega
  have hclock : ((t.day * 86400 + t.second) % 86400).toNat = t.second := by omega
  rw [ofSeconds?, seconds, hday, hclock, make?_parts]

theorem ofSeconds?_eq_some {seconds : Int} {nano : Nat} {t : LocalTime} :
    ofSeconds? seconds nano = some t ↔ t.seconds = seconds ∧ t.nano = nano := by
  constructor
  · intro h
    obtain ⟨hday, hsecond, hnano⟩ := make?_eq_some h
    exact ⟨by rw [LocalTime.seconds]; omega, hnano⟩
  · rintro ⟨rfl, rfl⟩
    exact ofSeconds?_seconds t

end LocalTime
end ImportDispatch
