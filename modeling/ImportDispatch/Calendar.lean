/-!
# The calendar

Days are counted from the first of January 1970, in the Gregorian calendar carried on without limit in both
directions, with a year zero.  A wall-clock reading is a day, a second of the day and a fraction; it stays inside the
years that a schedule may name, and a fraction of a whole second or more is a leap second that is being counted.
-/
namespace ImportDispatch

/-! ## Days -/

namespace Day

/-- Days from the start of March to the start of a month, with March as month zero. -/
def beforeMonth (shifted : Int) : Int := (153 * shifted + 2) / 5

/-- The day of a date.  The years are taken from March on, so that the leap day is the last of its year, and in runs of
four hundred, which have 146097 days each. -/
def ofCivil (year month day : Int) : Int :=
  let y := if month ≤ 2 then year - 1 else year
  let run := y / 400
  let inRun := y % 400
  let shifted := (month + 9) % 12
  let inYear := beforeMonth shifted + day - 1
  run * 146097 + (inRun * 365 + inRun / 4 - inRun / 100 + inYear) - 719468

structure Civil where
  year : Int
  month : Int
  day : Int
deriving DecidableEq, Repr

def civil (day : Int) : Civil :=
  let z := day + 719468
  let run := z / 146097
  let inRun := z % 146097
  let yearOfRun := (inRun - inRun / 1460 + inRun / 36524 - inRun / 146096) / 365
  let inYear := inRun - (365 * yearOfRun + yearOfRun / 4 - yearOfRun / 100)
  let shifted := (5 * inYear + 2) / 153
  let month := if shifted < 10 then shifted + 3 else shifted - 9
  let year := yearOfRun + run * 400
  ⟨if month ≤ 2 then year + 1 else year, month, inYear - beforeMonth shifted + 1⟩

/-- The weekday of a day, with Sunday as zero. -/
def weekday (day : Int) : Int := (day + 4) % 7

def isLeapYear (year : Int) : Bool :=
  year % 4 == 0 && (year % 100 != 0 || year % 400 == 0)

def monthLength (year month : Int) : Int :=
  if month = 2 then (if isLeapYear year then 29 else 28)
  else if month = 4 || month = 6 || month = 9 || month = 11 then 30
  else 31

/-- The first day of the years that a schedule may name. -/
def first : Int := ofCivil (-262143) 1 1

/-- The last day of the years that a schedule may name. -/
def last : Int := ofCivil 262142 12 31

end Day

/-! ## Wall-clock readings -/

/-- A wall-clock reading: a day inside the range, a second of the day, and a fraction in billionths.  A leap second is
counted as a second billion on top of the second before it. -/
structure LocalTime where
  day : Int
  second : Nat
  nano : Nat
  day_ge : Day.first ≤ day
  day_le : day ≤ Day.last
  second_lt : second < 86400
  nano_lt : nano < 2000000000
deriving DecidableEq, Repr

namespace LocalTime

/-- The reading with these parts, if there is one. -/
def make? (day : Int) (second nano : Nat) : Option LocalTime :=
  if h : (Day.first ≤ day ∧ day ≤ Day.last) ∧ second < 86400 ∧ nano < 2000000000 then
    some ⟨day, second, nano, h.1.1, h.1.2, h.2.1, h.2.2⟩
  else none

/-- The reading so many seconds after the start of 1970, or before it. -/
def ofSeconds? (seconds : Int) (nano : Nat) : Option LocalTime :=
  make? (seconds / 86400) (seconds % 86400).toNat nano

/-- How many whole seconds lie between the start of 1970 and the reading. -/
def seconds (t : LocalTime) : Int := t.day * 86400 + t.second

/-- Whether one reading comes before the other: by day, then by second, then by fraction. -/
def before (s t : LocalTime) : Bool :=
  s.day < t.day || (s.day == t.day && (s.second < t.second || (s.second == t.second && s.nano < t.nano)))

/-- The reading some seconds earlier or later, its fraction kept as it is. -/
def moved? (t : LocalTime) (ahead : Int) : Option LocalTime :=
  ofSeconds? (t.seconds + ahead) t.nano

/-- The reading an hour later.  A leap second is left behind: the hour is counted from the second before it. -/
def hourLater? (t : LocalTime) : Option LocalTime :=
  ofSeconds? (t.seconds + 3600) (if 1000000000 ≤ t.nano then t.nano - 1000000000 else t.nano)

end LocalTime
end ImportDispatch
