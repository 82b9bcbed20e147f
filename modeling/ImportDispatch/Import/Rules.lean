import ImportDispatch.Import.Job
import ImportDispatch.Import.Violation
/-!
# The rules for requests

A request is checked before anything is made from it.  Every rule looks at the request on its own, so that all
violations are found in one pass; their order is the order in which they are listed here.
-/
namespace ImportDispatch

/-- A violation, if the condition holds. -/
def violationIf (condition : Bool) (v : Violation) : List Violation := if condition then [v] else []

/-! ## Places -/

/-- The two separators of paths. -/
def isPathSeparator (c : Char) : Bool := c == '/' || c == '\\'

/-- A part of a path that names no directory below the one it stands in. -/
def isStraySegment (segment : Text) : Bool := segment.isEmpty || segment == ".".toList || segment == "..".toList

/-- A path that the client chooses stays below the directory it is joined to.  An empty one stands for the default
place; slashes at the end do not count. -/
def pathViolation? (field path : Text) : Option Violation :=
  if path.isEmpty then none
  else if path.head?.any isPathSeparator then some (.absolutePath field path)
  else if (Text.splitBy isPathSeparator (Text.trimEnd (· == '/') path)).any isStraySegment then
    some (.straySegment field path)
  else none

/-- A job name is one directory, and the path of its workflow stays below it. -/
def placeViolations (name appDir : Text) : List Violation :=
  violationIf (name.any isPathSeparator || name == ".".toList || name == "..".toList) (.nameNotDirectory name) ++
    (pathViolation? "appPath".toList appDir).toList

/-! ## Specifications -/

namespace ImportSpec

/-- The mode is given and known. -/
def modeViolations (spec : ImportSpec) : List Violation :=
  if Text.isBlank spec.importMode then [.blankMode]
  else violationIf spec.mode?.isNone (.unknownMode spec.importMode)

/-- What every import has to keep. -/
def violations (spec : ImportSpec) : List Violation :=
  (pathViolation? "targetDir".toList spec.targetDir).toList ++ spec.modeViolations ++
    violationIf (spec.mode? == some .incremental && spec.checkColumn.isEmpty) .missingCheckColumn

/-- What an import that runs at once has to keep as well: it has no default user. -/
def directViolations (spec : ImportSpec) : List Violation :=
  spec.violations ++ violationIf (Text.isBlank spec.username) .missingUsername

end ImportSpec

/-! ## Schedules -/

namespace Schedule

/-- A period in minutes has a lower limit, in seconds; the other units have none. -/
def periodViolation? (minimum : Nat) (schedule : Schedule) : Option Violation :=
  let seconds := schedule.frequency.minuteSeconds
  if schedule.frequency.unit? == some .minutes && (seconds < 0 || seconds.toNat < minimum) then
    some (.periodTooShort minimum)
  else none

variable [ZoneDatabase]

/-- Whether the end does not come after the start: as instants if both have one, else as the clocks show them. -/
def endsTooEarly (schedule : Schedule) : Except CalendarEnd Bool := do
  let startInstant ← schedule.startInstant
  let endInstant ← schedule.endInstant
  match startInstant, endInstant with
  | some s, some e => return !s.before e
  | _, _ => return !schedule.startTime.before schedule.endTime

/-- What a schedule has to keep, with a lower limit for periods in minutes. -/
def violations (minimum : Nat) (schedule : Schedule) : Except CalendarEnd (List Violation) := do
  let endsTooEarly ← schedule.endsTooEarly
  return violationIf endsTooEarly (.startNotBeforeEnd schedule.startTime schedule.endTime) ++
    violationIf schedule.zone?.isNone (.unknownTimezone schedule.timezone) ++
    violationIf schedule.frequency.unit?.isNone (.unknownUnit schedule.frequency.unit) ++
    violationIf (schedule.frequency.amount.toInt ≤ 0) .amountNotPositive ++
    (schedule.periodViolation? minimum).toList

end Schedule

/-! ## Requests -/

def ImportJob.violations (job : ImportJob) : List Violation :=
  placeViolations job.name job.appDir ++ job.spec.directViolations

def ScheduledJob.violations [ZoneDatabase] (minimum : Nat) (job : ScheduledJob) :
    Except CalendarEnd (List Violation) := do
  let ofSchedule ← job.schedule.violations minimum
  return placeViolations job.name job.appDir ++ job.spec.violations ++ ofSchedule

end ImportDispatch
