import ImportDispatch.Proofs.Coordinator.Reading
import ImportDispatch.Proofs.Decimal
import ImportDispatch.Proofs.Schedule.CalendarEnd
import ImportDispatch.Proofs.Schedule.Period
import ImportDispatch.Zone.Selection
/-!
# The document of a coordinator

What the engine is told of a coordinator is its document, and the document holds all of it: the coordinator is read back
with every text, with its period, and with its instants at the start of their minutes (`Coordinator.read_written`).  So
two coordinators have one document only if they are the same to the minute (`Coordinator.document_eq_iff`), and what was
drafted can be told from what was written (`CoordinatorDraft.read_document_of_build`).
-/
namespace ImportDispatch

open Markup

/-! ## Periods in the expression language -/

/-- A whole number with a minus sign in front of it, or with none. -/
def Decimal.toInt? : Text → Option Int
  | '-' :: digits => (toNat? digits).map fun n : Nat => -(n : Int)
  | digits => (toNat? digits).map fun n : Nat => (n : Int)

def Decimal.toWord? (s : Text) : Option Int64 := do
  let n ← toInt? s
  if Word.holdsSigned n then some (Int64.ofInt n) else none

namespace PeriodUnit

/-- The unit that a function of the engine counts in. -/
def ofFunction? (function : Text) : Option PeriodUnit := all.find? fun unit => "$\x7bcoord:".toList ++ unit.name == function

/-- The period that an expression of the engine stands for: a function of one number. -/
def ofExpression? (expression : Text) : Option (PeriodUnit × Int64) :=
  match Text.splitBy (· == '(') expression with
  | [function, argument] =>
    match Text.splitBy (· == ')') argument with
    | [amount, ['\x7d']] => do return (← ofFunction? function, ← Decimal.toWord? amount)
    | _ => none
  | _ => none

end PeriodUnit

namespace Decimal

theorem toInt?_digits {digits : Text} (h : '-' ∉ digits) : toInt? digits = (toNat? digits).map fun n : Nat => (n : Int) := by
  unfold toInt?
  split
  · exact absurd List.mem_cons_self h
  · rfl

theorem toInt?_ofInt (n : Int) : toInt? (ofInt n) = some n := by
  unfold ofInt
  split
  · rename_i hneg
    have hvalue : -(n.natAbs : Int) = n := by omega
    rw [toInt?, toNat?_ofNat, Option.map_some, hvalue]
  · rename_i hneg
    have hvalue : (n.natAbs : Int) = n := by omega
    rw [toInt?_digits (not_mem_ofNat (by decide) _), toNat?_ofNat, Option.map_some, hvalue]

theorem toWord?_ofInt (amount : Int64) : toWord? (ofInt amount.toInt) = some amount := by
  rw [toWord?, toInt?_ofInt]
  simp [Word.holdsSigned_toInt]

end Decimal

theorem Coordinator.ofExpression?_frequencyText (coordinator : Coordinator) :
    PeriodUnit.ofExpression? coordinator.frequencyText = some (coordinator.unit, coordinator.amount) := by
  have hfront : '(' ∉ "$\x7bcoord:".toList ++ coordinator.unit.name := by cases coordinator.unit <;> decide
  have hunit : PeriodUnit.ofFunction? ("$\x7bcoord:".toList ++ coordinator.unit.name) = some coordinator.unit := by
    cases coordinator.unit <;> decide
  -- the number holds neither bracket
  have hamount {c : Char} (hdigit : Decimal.isDigit c = false) (hsign : c ≠ '-') :
      c ∉ Decimal.ofInt coordinator.amount.toInt := Decimal.not_mem_ofInt hdigit hsign _
  have hargument : '(' ∉ Decimal.ofInt coordinator.amount.toInt ++ ")\x7d".toList := by
    rw [List.mem_append, not_or]
    exact ⟨hamount (by decide) (by decide), by decide⟩
  have htext : coordinator.frequencyText = ("$\x7bcoord:".toList ++ coordinator.unit.name) ++
      '(' :: (Decimal.ofInt coordinator.amount.toInt ++ ")\x7d".toList) := List.append_assoc _ _ _
  have hpieces : Text.splitBy (· == '(') coordinator.frequencyText =
      ["$\x7bcoord:".toList ++ coordinator.unit.name, Decimal.ofInt coordinator.amount.toInt ++ ")\x7d".toList] := by
    rw [htext, Text.splitBy_mark hfront, Text.splitBy_of_not_mem hargument]
  have hback : Text.splitBy (· == ')') (Decimal.ofInt coordinator.amount.toInt ++ ")\x7d".toList) =
      [Decimal.ofInt coordinator.amount.toInt, ['\x7d']] := Text.splitBy_mark (hamount (by decide) (by decide)) ['\x7d']
  simp only [PeriodUnit.ofExpression?, hpieces, hback, hunit, Decimal.toWord?_ofInt]
  rfl

/-! ## The reader -/

/-- The value of a property, if it has this name. -/
def propertyValue? (name : Text) : Element → Option Text
  | .nested _ _ (.text _ _ key) [.text _ _ value] => if key = name then some value else none
  | _ => none

namespace Coordinator

/-- The coordinator that an element describes: when it starts a workflow stands in the attributes, which workflow it is
and what that needs stand inside. -/
def ofElement? : Element → Option Coordinator
  | .nested _ attributes (.nested _ _ (.nested _ _ (.text _ _ appDir) [.nested _ _ first others]) []) [] => do
    let (unit, amount) ← PeriodUnit.ofExpression? (← attributes.lookup "frequency".toList)
    return {
      name := ← attributes.lookup "name".toList
      appDir
      libPath := ← (first :: others).findSome? (propertyValue? "oozie.libpath".toList)
      unit
      amount
      startInstant := ← LocalTime.ofMinuteText? (← attributes.lookup "start".toList)
      endInstant := ← LocalTime.ofMinuteText? (← attributes.lookup "end".toList)
      timezone := ← attributes.lookup "timezone".toList }
  | _ => none

def read (document : Text) : Option Coordinator := (Element.read document).bind ofElement?

/-- The coordinator with the seconds of its instants left out. -/
def toMinute (coordinator : Coordinator) : Coordinator :=
  { coordinator with startInstant := coordinator.startInstant.toMinute, endInstant := coordinator.endInstant.toMinute }

theorem ofElement?_element (coordinator : Coordinator) : ofElement? coordinator.element = some coordinator.toMinute := by
  have hperiod := coordinator.ofExpression?_frequencyText
  have hstart := LocalTime.ofMinuteText?_minuteText coordinator.startInstant
  have hend := LocalTime.ofMinuteText?_minuteText coordinator.endInstant
  show (do
    let (unit, amount) ← PeriodUnit.ofExpression? coordinator.frequencyText
    return {
      name := coordinator.name
      appDir := coordinator.appDir
      libPath := coordinator.libPath
      unit
      amount
      startInstant := ← LocalTime.ofMinuteText? coordinator.startInstant.minuteText
      endInstant := ← LocalTime.ofMinuteText? coordinator.endInstant.minuteText
      timezone := coordinator.timezone : Coordinator }) = some coordinator.toMinute
  rw [hperiod, hstart, hend]
  rfl

/-- **A coordinator is read back from its document**, to the minute. -/
theorem read_written (coordinator : Coordinator) : read coordinator.document = some coordinator.toMinute := by
  rw [read, coordinator.read_document_eq, Option.bind_some, ofElement?_element]

theorem document_toMinute (coordinator : Coordinator) : coordinator.toMinute.document = coordinator.document := by
  have hattributes : coordinator.toMinute.attributes = coordinator.attributes := by
    rw [attributes, attributes, toMinute, LocalTime.minuteText_toMinute, LocalTime.minuteText_toMinute]
    rfl
  rw [document, document, steps, steps, hattributes]
  rfl

/-- Two coordinators have one document if they differ in the seconds of their instants, and only then. -/
theorem document_eq_iff {c d : Coordinator} : c.document = d.document ↔ c.toMinute = d.toMinute := by
  constructor
  · intro h
    have hread := c.read_written
    rw [h, d.read_written] at hread
    exact (Option.some.inj hread).symm
  · intro h
    rw [← c.document_toMinute, h, d.document_toMinute]

end Coordinator

/-! ## Drafts -/

/-- A draft that has become a coordinator, with the parts it was made of. -/
theorem CoordinatorDraft.build_eq_ok [ZoneDatabase] {draft : CoordinatorDraft} {coordinator : Coordinator} :
    draft.build = .ok coordinator ↔ ∃ name appDir schedule unit startInstant endInstant,
      draft.name? = some name ∧ draft.appDir? = some appDir ∧ draft.schedule? = some schedule ∧
      schedule.frequency.unit? = some unit ∧ schedule.startInstant = .ok (some startInstant) ∧
      schedule.endInstant = .ok (some endInstant) ∧
      coordinator = ⟨name, appDir, draft.libPath, unit, schedule.frequency.amount, startInstant, endInstant,
        schedule.timezone⟩ := by
  obtain ⟨name?, appDir?, libPath, schedule?⟩ := draft
  constructor
  · intro built
    cases name? with
    | none => cases built
    | some name =>
      cases appDir? with
      | none => cases built
      | some appDir =>
        cases schedule? with
        | none => cases built
        | some schedule =>
          cases hunit : schedule.frequency.unit? with
          | none =>
            simp only [build, hunit] at built
            cases built
          | some unit =>
            rw [build_schedule hunit] at built
            obtain ⟨startInstant, hstart, built⟩ := Attempt.bind_eq_ok built
            obtain ⟨endInstant, hend, built⟩ := Attempt.bind_eq_ok built
            cases built
            exact ⟨name, appDir, schedule, unit, startInstant, endInstant, rfl, rfl, rfl, hunit, placed_eq_ok.1 hstart,
              placed_eq_ok.1 hend, rfl⟩
  · rintro ⟨name, appDir, schedule, unit, startInstant, endInstant, hname, hdir, hschedule, hunit, hstart, hend, rfl⟩
    obtain rfl : name? = some name := hname
    obtain rfl : appDir? = some appDir := hdir
    obtain rfl : schedule? = some schedule := hschedule
    rw [build_schedule hunit, hstart, hend]
    rfl

/-- **The document of a built coordinator holds what was drafted**: the texts as they are, whatever characters they have;
the unit, in whatever letter case it was asked for, and the amount; and the instants at which the schedule starts and
ends, at the start of their minutes. -/
theorem CoordinatorDraft.read_document_of_build [ZoneDatabase] {draft : CoordinatorDraft} {coordinator : Coordinator}
    (built : draft.build = .ok coordinator) : ∃ name appDir schedule unit startInstant endInstant,
      draft.name? = some name ∧ draft.appDir? = some appDir ∧ draft.schedule? = some schedule ∧
      Text.InAnyCase unit.name schedule.frequency.unit ∧
      schedule.startInstant = .ok (some startInstant) ∧ schedule.endInstant = .ok (some endInstant) ∧
      Coordinator.read coordinator.document = some ⟨name, appDir, draft.libPath, unit, schedule.frequency.amount,
        startInstant.toMinute, endInstant.toMinute, schedule.timezone⟩ := by
  obtain ⟨name, appDir, schedule, unit, startInstant, endInstant, hname, hdir, hschedule, hunit, hstart, hend, rfl⟩ :=
    CoordinatorDraft.build_eq_ok.1 built
  exact ⟨name, appDir, schedule, unit, startInstant, endInstant, hname, hdir, hschedule,
    PeriodUnit.ofText?_eq_some_iff.1 hunit, hstart, hend, Coordinator.read_written _⟩

theorem noon_lt : 43200 < 86400 := by decide

/-- Every so many minutes, from a day when the clocks of Nepal were not whole minutes ahead to one long after. -/
def longSchedule : Schedule where
  startTime := ⟨-735160, 43200, 0, by decide, by decide, noon_lt, no_nanos_lt⟩
  endTime := ⟨3789548, 43200, 0, by decide, by decide, noon_lt, no_nanos_lt⟩
  timezone := "Asia/Kathmandu".toList
  frequency := ⟨"MiNuTeS".toList, Int64.minValue⟩

def longDraft : CoordinatorDraft where
  name? := some "\"ides\" <of> March".toList
  appDir? := some "</app-path>&amp;".toList
  libPath := []
  schedule? := some longSchedule

/-- From 15 March of the year -43, 44 seconds after 06:18 in UTC, to 7 June 12345. -/
def longCoordinator : Coordinator where
  name := "\"ides\" <of> March".toList
  appDir := "</app-path>&amp;".toList
  libPath := []
  unit := .minutes
  amount := Int64.minValue
  startInstant := ⟨-735160, 22724, 0, by decide, by decide, by decide, no_nanos_lt⟩
  endInstant := ⟨3789548, 22500, 0, by decide, by decide, by decide, no_nanos_lt⟩
  timezone := "Asia/Kathmandu".toList

theorem longDraft_built : longDraft.build = .ok longCoordinator :=
  CoordinatorDraft.build_eq_ok.2 ⟨_, _, longSchedule, .minutes, longCoordinator.startInstant, longCoordinator.endInstant,
    rfl, rfl, rfl, by decide, by decide +kernel, by decide +kernel, rfl⟩

theorem CoordinatorDraft.read_document_of_build_longDraft :
    longDraft.build = .ok longCoordinator ∧
      Coordinator.read longCoordinator.document = some { longCoordinator with
        startInstant := ⟨-735160, 22680, 0, by decide, by decide, by decide, no_nanos_lt⟩ } := by
  obtain ⟨name, appDir, schedule, unit, startInstant, endInstant, hname, hdir, hschedule, hunit, hstart, hend, hread⟩ :=
    CoordinatorDraft.read_document_of_build longDraft_built
  cases hname
  cases hdir
  cases hschedule
  have hminutes : PeriodUnit.ofText? longSchedule.frequency.unit = some .minutes := by decide
  have hfirst : longSchedule.startInstant = .ok (some longCoordinator.startInstant) := by decide +kernel
  have hlast : longSchedule.endInstant = .ok (some longCoordinator.endInstant) := by decide +kernel
  rw [PeriodUnit.ofText?_eq_some_iff.2 hunit] at hminutes
  rw [hfirst] at hstart
  rw [hlast] at hend
  cases hminutes
  cases hstart
  cases hend
  exact ⟨longDraft_built, hread⟩

end ImportDispatch
