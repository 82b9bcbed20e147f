import ImportDispatch.Calendar.TimeText
import ImportDispatch.Schedule
import ImportDispatch.Workflow
/-!
# Coordinators

A coordinator starts a workflow that is already in place, again and again between two instants.  The instants are given
in UTC; the zone of the schedule is kept beside them, because the engine needs it to count days and months.
-/
namespace ImportDispatch

/-- The place of the libraries that every deployment of the engine shares. -/
def sharedLibPath : Text := "/user/oozie/share/lib/".toList

/-- What the engine needs to start a workflow on a schedule. -/
structure Coordinator where
  name : Text
  appDir : Text
  libPath : Text
  unit : PeriodUnit
  amount : Int64
  startInstant : LocalTime
  endInstant : LocalTime
  timezone : Text
deriving DecidableEq, Repr

namespace Coordinator

/-- The period in the expression language of the engine. -/
def frequencyText (coordinator : Coordinator) : Text :=
  "$\x7bcoord:".toList ++ coordinator.unit.name ++ '(' :: Decimal.ofInt coordinator.amount.toInt ++ ")\x7d".toList

open Markup

def nameSpace : Text := "uri:oozie:coordinator:0.4".toList

/-- The attributes of the coordinator, in order. -/
def attributes (coordinator : Coordinator) : Attributes :=
  [attr "name" coordinator.name, attr "frequency" coordinator.frequencyText,
    attr "start" coordinator.startInstant.minuteText, attr "end" coordinator.endInstant.minuteText,
    attr "timezone" coordinator.timezone, attr "xmlns" nameSpace]

def steps (coordinator : Coordinator) : List Step :=
  element "coordinator-app" coordinator.attributes
    (element "action" []
      (element "workflow" []
        (textElement "app-path" [] coordinator.appDir ++
          element "configuration" []
            (property "oozie.libpath".toList coordinator.libPath ++
              property "oozie.use.system.libpath".toList "true".toList))))

def document (coordinator : Coordinator) : Text := Markup.document coordinator.steps

end Coordinator

/-! ## Drafts -/

/-- A coordinator that is being put together. -/
structure CoordinatorDraft where
  name? : Option Text := none
  appDir? : Option Text := none
  libPath : Text := sharedLibPath
  schedule? : Option Schedule := none
deriving DecidableEq, Repr

/-- An instant that the coordinator has to have. -/
def placed (timezone : Text) : Except CalendarEnd (Option LocalTime) → Except DefinitionError LocalTime
  | .ok (some instant) => .ok instant
  | .ok none => .error (.invalidSchedule (.unplaceable timezone))
  | .error .reached => .error .beyondCalendar

/-- The coordinator of a draft, or the first thing that is wrong with it. -/
def CoordinatorDraft.build [ZoneDatabase] (draft : CoordinatorDraft) : Except DefinitionError Coordinator :=
  match draft.name?, draft.appDir?, draft.schedule? with
  | none, _, _ => .error (.missingField "name".toList)
  | some _, none, _ => .error (.missingField "app_path".toList)
  | some _, some _, none => .error (.missingField "schedule".toList)
  | some name, some appDir, some schedule => do
    let unit ← match schedule.frequency.unit? with
      | some unit => .ok unit
      | none => .error (.invalidSchedule (.unknownUnit schedule.frequency.unit))
    let startInstant ← placed schedule.timezone schedule.startInstant
    let endInstant ← placed schedule.timezone schedule.endInstant
    return ⟨name, appDir, draft.libPath, unit, schedule.frequency.amount, startInstant, endInstant, schedule.timezone⟩

end ImportDispatch
