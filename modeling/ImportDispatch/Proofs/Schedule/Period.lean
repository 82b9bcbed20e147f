import ImportDispatch.Import.Rules
import ImportDispatch.Proofs.Attempt
import ImportDispatch.Proofs.Calendar.Stamp
import ImportDispatch.Proofs.Text.Lowercase
import Mathlib.Data.List.Forall2
/-!
# The lower limit for periods

A period that is counted in minutes must not be shorter than a limit, and its seconds are counted in a word with a sign,
while the limit may be any word without one.  Up to the largest number with a sign the seconds are exact.  A longer
period counts as that number, and is told to be too short if the limit is higher still (`Schedule.period_decides`).
Periods in other units have no limit.
-/
namespace ImportDispatch

/-! ## Units in any letter case -/

namespace Text

/-- The text `s` is `name` in some letter case: every small letter is there as it is or as its capital. -/
def InAnyCase (name s : Text) : Prop := List.Forall₂ (fun c d => c = d ∨ c = d.toUpper) s name

theorem eq_or_eq_toUpper {c : Char} (h : c.toNat < 128) : c = c.toLower ∨ c = c.toLower.toUpper :=
  forall_ascii (p := fun c => c = c.toLower ∨ c = c.toLower.toUpper) (by decide) h

/-- A name whose characters are small, and come back from their capitals. -/
def IsSmallName (name : Text) : Prop := ∀ d ∈ name, d.toNat < 128 ∧ d.toLower = d ∧ d.toUpper.toLower = d

instance (name : Text) : Decidable (IsSmallName name) :=
  List.decidableBAll (fun d : Char => d.toNat < 128 ∧ d.toLower = d ∧ d.toUpper.toLower = d) name

theorem asciiLower_eq_iff {name : Text} (hname : IsSmallName name) {s : Text} :
    asciiLower s = name ↔ InAnyCase name s := by
  constructor
  · rintro rfl
    rw [InAnyCase, asciiLower, List.forall₂_map_right_iff, List.forall₂_same]
    intro c hc
    exact eq_or_eq_toUpper (lt_of_toLower_lt (hname c.toLower (List.mem_map_of_mem hc)).1)
  · intro h
    unfold InAnyCase at h
    induction h with
    | nil => rfl
    | cons hletter _ ih =>
      rw [IsSmallName, List.forall_mem_cons] at hname
      obtain ⟨⟨-, hsmall, hcapital⟩, hrest⟩ := hname
      rw [asciiLower, List.map_cons, ← asciiLower, ih hrest]
      rcases hletter with rfl | rfl
      · rw [hsmall]
      · rw [hcapital]

/-- The first of a row that has the text for its name is the one with that name, in any letter case. -/
theorem find?_named {α : Type} {all : List α} {name : α → Text} {a : α} (hsmall : IsSmallName (name a))
    (hfirst : all.find? (name · == name a) = some a) {s : Text} :
    all.find? (name · == asciiLower s) = some a ↔ InAnyCase (name a) s := by
  rw [← asciiLower_eq_iff hsmall]
  constructor
  · intro h
    have hname := List.find?_some h
    exact (beq_iff_eq.1 hname).symm
  · intro h
    rw [h]
    exact hfirst

end Text

theorem PeriodUnit.ofText?_eq_some_iff {s : Text} {unit : PeriodUnit} :
    ofText? s = some unit ↔ Text.InAnyCase unit.name s :=
  Text.find?_named (by cases unit <;> decide) (by cases unit <;> rfl)

/-! ## Seconds in a word -/

/-- Only a limit above the largest number with a sign tells a number from what a word makes of it. -/
theorem Word.saturate_lt_iff {n : Int} {limit : Nat} :
    saturate n < limit ↔ n < limit ∨ largestSigned < n ∧ largestSigned < limit := by
  simp only [saturate, leastSigned, largestSigned]
  omega

/-! ## Periods -/

namespace Schedule

theorem periodViolation?_eq (minimum : Nat) (schedule : Schedule) : schedule.periodViolation? minimum =
    if schedule.frequency.unit? = some .minutes ∧ schedule.frequency.minuteSeconds < minimum then
      some (.periodTooShort minimum)
    else none := by
  have hlimit : (schedule.frequency.minuteSeconds < 0 ∨ schedule.frequency.minuteSeconds.toNat < minimum) ↔
      schedule.frequency.minuteSeconds < minimum := by omega
  simp only [periodViolation?, Bool.and_eq_true, beq_iff_eq, Bool.or_eq_true, decide_eq_true_eq, hlimit]

/-- The violations that are told of the period are what its own rule finds. -/
theorem filter_violations [ZoneDatabase] {minimum : Nat} {schedule : Schedule} {violations : List Violation}
    (h : schedule.violations minimum = .ok violations) :
    violations.filter (·.field == "frequency".toList) = (schedule.periodViolation? minimum).toList := by
  have hother (condition : Bool) {v : Violation} (hv : (v.field == "frequency".toList) = false) :
      (violationIf condition v).filter (·.field == "frequency".toList) = [] := by
    cases condition with
    | false => rfl
    | true => exact List.filter_singleton.trans (by rw [hv]; rfl)
  obtain ⟨early, -, h⟩ := Attempt.bind_eq_ok h
  rw [← Except.ok.inj h]
  simp only [List.filter_append, hother _ (v := .startNotBeforeEnd _ _) rfl, hother _ (v := .unknownTimezone _) rfl,
    hother _ (v := .unknownUnit _) rfl, hother _ (v := .amountNotPositive) rfl, List.nil_append]
  rw [periodViolation?_eq]
  split <;> rfl

/-- **A period is too short exactly if it is counted in minutes and its seconds are fewer than the limit**, or both of
them lie above the largest number with a sign.  It is told alike when the rule is asked alone and among all others. -/
theorem period_decides [ZoneDatabase] (minimum : Nat) (schedule : Schedule) :
    (schedule.periodViolation? minimum = some (.periodTooShort minimum) ↔
      Text.InAnyCase "minutes".toList schedule.frequency.unit ∧
        (schedule.frequency.amount.toInt * 60 < minimum ∨
          Word.largestSigned < schedule.frequency.amount.toInt * 60 ∧ Word.largestSigned < minimum)) ∧
    (schedule.periodViolation? minimum = some (.periodTooShort minimum) ∨ schedule.periodViolation? minimum = none) ∧
    ∀ violations, schedule.violations minimum = .ok violations →
      violations.filter (·.field == "frequency".toList) = (schedule.periodViolation? minimum).toList := by
  have hminutes : schedule.frequency.unit? = some .minutes ↔
      Text.InAnyCase "minutes".toList schedule.frequency.unit := PeriodUnit.ofText?_eq_some_iff
  refine ⟨?_, ?_, fun violations => filter_violations⟩
  · rw [periodViolation?_eq, ← hminutes, ← Word.saturate_lt_iff, ← Frequency.minuteSeconds]
    simp
  · rw [periodViolation?_eq]
    split
    · exact .inl rfl
    · exact .inr rfl

/-- A schedule in minutes, so many of them that the seconds go beyond a word with a sign. -/
def longSchedule : Schedule where
  startTime := .sample 0
  endTime := .sample 59
  timezone := "UTC".toList
  frequency := ⟨"minutes".toList, 153722867280912931⟩

/-- A period of just as many seconds as the limit is told to be too short. -/
theorem not_period_exact :
    ¬∀ (minimum : Nat) (schedule : Schedule), minimum ≤ Word.largest →
      Text.InAnyCase "minutes".toList schedule.frequency.unit →
      (schedule.periodViolation? minimum = some (.periodTooShort minimum) ↔
        schedule.frequency.amount.toInt * 60 < minimum) := by
  intro h
  have hunit : Text.InAnyCase "minutes".toList longSchedule.frequency.unit :=
    (Text.asciiLower_eq_iff (by decide)).1 rfl
  have hexact := h 9223372036854775860 longSchedule (by decide) hunit
  revert hexact
  decide

end Schedule
end ImportDispatch
