import ImportDispatch.Text
import ImportDispatch.Zone.Regular
/-!
# Zone names

The zones a schedule may name are those of a time zone database.  The database changes several times a year and is no
part of the program, so that whatever is said of schedules is said for any database of regular zones.  A name is matched
letter for letter.
-/
namespace ImportDispatch

/-- A database of time zones. -/
class ZoneDatabase where
  /-- The zones by name, in the order in which they are offered to clients. -/
  zones : List (Text × Zone)
  regular : ∀ named ∈ zones, named.2.IsRegular

section

variable [ZoneDatabase]

def Zone.named? (name : Text) : Option Zone := (ZoneDatabase.zones.find? (·.1 == name)).map (·.2)

/-- What marks the names of the main zones. -/
def mainZoneMarks : List String := ["GMT", "UTC", "US", "Europe/Warsaw"]

def offeredZones : List Text :=
  (ZoneDatabase.zones.map (·.1)).filter fun name => mainZoneMarks.any fun mark => Text.occursIn mark.toList name

end

end ImportDispatch
