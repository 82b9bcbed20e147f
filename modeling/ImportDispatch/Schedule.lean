import ImportDispatch.Calendar
import ImportDispatch.Text
import ImportDispatch.Word
import ImportDispatch.Zone.Names
/-!
# Schedules

When and how often an import recurs.  Start and end are wall-clock readings in a zone; the engine counts in UTC, so
both are placed there: a reading that comes twice at its first instant, a reading that a change forward jumps over an
hour later.
-/
namespace ImportDispatch

/-! ## Periods -/

/-- The units a period is counted in. -/
inductive PeriodUnit
  | minutes | hours | days | months
deriving DecidableEq, Repr

namespace PeriodUnit

def name : PeriodUnit → Text
  | minutes => "minutes".toList
  | hours => "hours".toList
  | days => "days".toList
  | months => "months".toList

def all : List PeriodUnit := [minutes, hours, days, months]

/-- The unit of a name, in any letter case. -/
def ofText? (s : Text) : Option PeriodUnit := all.find? (·.name == Text.asciiLower s)

end PeriodUnit

/-- How often something recurs. -/
structure Frequency where
  /-- The unit as the client wrote it. -/
  unit : Text
  amount : Int64
deriving DecidableEq, Repr

def Frequency.unit? (frequency : Frequency) : Option PeriodUnit := PeriodUnit.ofText? frequency.unit

/-- The seconds of a period that is counted in minutes, as far as a word holds them. -/
def Frequency.minuteSeconds (frequency : Frequency) : Int := Word.saturate (frequency.amount.toInt * 60)

/-! ## Schedules -/

/-- When and how often an import recurs. -/
structure Schedule where
  startTime : LocalTime
  endTime : LocalTime
  /-- The name of the zone whose clocks show the two times. -/
  timezone : Text
  frequency : Frequency
deriving DecidableEq, Repr

/-- A time could not be moved: it lies in the last hour of the calendar. -/
inductive CalendarEnd
  | reached
deriving DecidableEq, Repr

/-- The reading in UTC for a wall-clock reading.  One that no instant shows is tried again an hour later, which the last
hour of the calendar does not allow. -/
def Zone.instantFor (zone : Zone) (shown : LocalTime) : Except CalendarEnd (Option LocalTime) :=
  match zone.earliest? shown with
  | some utc => .ok (some utc)
  | none =>
    match shown.hourLater? with
    | some later => .ok (zone.earliest? later)
    | none => .error .reached

namespace Schedule

variable [ZoneDatabase]

def zone? (schedule : Schedule) : Option Zone := Zone.named? schedule.timezone

/-- A time of the schedule in UTC; nothing if the zone is unknown or no instant is near. -/
def instantOf (schedule : Schedule) (shown : LocalTime) : Except CalendarEnd (Option LocalTime) :=
  match schedule.zone? with
  | some zone => zone.instantFor shown
  | none => .ok none

def startInstant (schedule : Schedule) : Except CalendarEnd (Option LocalTime) := schedule.instantOf schedule.startTime

def endInstant (schedule : Schedule) : Except CalendarEnd (Option LocalTime) := schedule.instantOf schedule.endTime

end Schedule
end ImportDispatch
