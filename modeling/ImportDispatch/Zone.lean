import ImportDispatch.Calendar
/-!
# Time zones

A zone is what the clocks of one place show: an offset from UTC to begin with, and the changes of it in the order they
come.  Because offsets change, a wall-clock reading may belong to no instant, when a change forward jumps over it, or
to two, when a change backward repeats it.
-/
namespace ImportDispatch

/-- A change that comes every year: a month, which Sunday of it (zero for the last), a second counted from the midnight
in UTC that starts the Sunday, and the offset from then on. -/
structure Turn where
  month : Int
  sunday : Int
  second : Int
  offset : Int
deriving DecidableEq, Repr

/-- A part of the history of a zone: one change, or the same changes in a run of years. -/
inductive Spell
  | change (instant offset : Int)
  | years (first last : Int) (turns : List Turn)
deriving DecidableEq, Repr

/-- The offset before any change, in seconds ahead of UTC, and the history from then on. -/
structure Zone where
  offset : Int
  spells : List Spell
deriving DecidableEq, Repr

/-! ## From rules to changes -/

/-- The day of the Sunday that a turn names in a year. -/
def Turn.sundayOf (turn : Turn) (year : Int) : Int :=
  if turn.sunday = 0 then
    let lastDay := Day.ofCivil year turn.month (Day.monthLength year turn.month)
    lastDay - Day.weekday lastDay
  else
    let start := Day.ofCivil year turn.month 1
    start + (-Day.weekday start) % 7 + 7 * (turn.sunday - 1)

/-- The change that a turn brings in a year. -/
def Turn.changeIn (turn : Turn) (year : Int) : Int × Int :=
  (turn.sundayOf year * 86400 + turn.second, turn.offset)

/-- The changes of a spell, each with its instant and the offset from then on. -/
def Spell.changes : Spell → List (Int × Int)
  | .change instant offset => [(instant, offset)]
  | .years first last turns =>
    (List.range (last - first + 1).toNat).flatMap fun (k : Nat) => turns.map (·.changeIn (first + (k : Int)))

def Zone.changes (z : Zone) : List (Int × Int) := z.spells.flatMap Spell.changes

/-- A zone whose clocks never change. -/
def Zone.fixed (offset : Int) : Zone := ⟨offset, []⟩

/-! ## From wall-clock readings to instants -/

/-- The instants at which a clock shows the given second, in order: for each stretch between two changes the one
instant that its offset leads to, if it lies in the stretch.  `since` is the start of the first stretch, if it has
one. -/
def instantsFrom (since : Option Int) (offset : Int) (changes : List (Int × Int)) (shown : Int) : List Int :=
  let instant := shown - offset
  let begun := match since with
    | none => true
    | some start => decide (start ≤ instant)
  match changes with
  | [] => if begun then [instant] else []
  | (next, after) :: rest =>
    let others := instantsFrom (some next) after rest shown
    if begun && instant < next then instant :: others else others

/-- The instants at which the clocks of the zone show the given second. -/
def Zone.instants (z : Zone) (shown : Int) : List Int := instantsFrom none z.offset z.changes shown

/-- The reading in UTC of the earliest instant at which the clocks of the zone show the given one.  The fraction plays
no part and is kept. -/
def Zone.earliest? (z : Zone) (shown : LocalTime) : Option LocalTime := do
  let instant ← (z.instants shown.seconds).head?
  LocalTime.ofSeconds? instant shown.nano

end ImportDispatch
