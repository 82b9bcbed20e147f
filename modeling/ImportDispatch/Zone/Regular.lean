import ImportDispatch.Zone
/-!
# Regular zones

What the clocks of the world have always kept, although nothing but habit makes them: an offset is shorter than a day, a
change does not come within days of another, no change is planned for the end of the calendar, and where the clocks stay
behind UTC in the end they are behind it by an hour or more.
-/
namespace ImportDispatch

def hasBegun (since : Option Int) (instant : Int) : Bool := since.all (· ≤ instant)

/-- Offsets of less than a day, and three days or more from each change to the next. -/
def steadyFrom (since : Option Int) (offset : Int) : List (Int × Int) → Bool
  | [] => -86400 < offset && offset < 86400
  | (next, after) :: rest =>
    -86400 < offset && offset < 86400 && hasBegun since (next - 259200) && steadyFrom (some next) after rest

def settledFrom (offset : Int) : List (Int × Int) → Int
  | [] => offset
  | (_, after) :: rest => settledFrom after rest

namespace Zone

def isSteady (zone : Zone) : Bool := steadyFrom none zone.offset zone.changes

/-- The offset behind all changes. -/
def settled (zone : Zone) : Int := settledFrom zone.offset zone.changes

/-- No clock changes in the last two days of the calendar. -/
def Settles (zone : Zone) : Prop := ∀ change ∈ zone.changes, change.1 + 86400 ≤ Day.last * 86400

/-- A zone as the zones of the world are. -/
structure IsRegular (zone : Zone) : Prop where
  steady : zone.isSteady
  settles : zone.Settles
  /-- In the end the clocks are not behind UTC, or by an hour or more. -/
  west : 0 ≤ zone.settled ∨ zone.settled ≤ -3600

end Zone
end ImportDispatch
