import ImportDispatch.Calendar
import ImportDispatch.Decimal
import ImportDispatch.Text.Blank
/-!
# Times as text

A wall-clock reading is written `2077-07-04T08:15:00`, with the letter in the middle on the wire and a blank in
messages.  The fraction has three, six or nine digits, or is left out when it is zero.  A year outside `0` to `9999`
carries its sign.  A leap second is written as the second after the fifty-ninth.

The reader is generous with blanks around the numbers and with missing leading zeros, and strict about everything
else.
-/
namespace ImportDispatch

/-! ## Writing -/

namespace LocalTime

/-- A year: four digits, or a sign and at least four. -/
def yearText (year : Int) : Text :=
  if 0 ≤ year && year ≤ 9999 then Decimal.padded 4 year.natAbs
  else (if year < 0 then '-' else '+') :: Decimal.padded 4 year.natAbs

def dateText (day : Int) : Text :=
  let date := Day.civil day
  yearText date.year ++ '-' :: Decimal.padded 2 date.month.natAbs ++ '-' :: Decimal.padded 2 date.day.natAbs

/-- A fraction: the fewest of three, six or nine digits that hold it, none for zero. -/
def fractionText (nano : Nat) : Text :=
  if nano = 0 then []
  else if nano % 1000000 = 0 then '.' :: Decimal.padded 3 (nano / 1000000)
  else if nano % 1000 = 0 then '.' :: Decimal.padded 6 (nano / 1000)
  else '.' :: Decimal.padded 9 nano

def hourMinuteText (second : Nat) : Text :=
  Decimal.padded 2 (second / 3600) ++ ':' :: Decimal.padded 2 (second / 60 % 60)

/-- The second of the minute, a leap second counted on. -/
def secondOfMinute (t : LocalTime) : Nat := t.second % 60 + t.nano / 1000000000

/-- Date and time with `middle` between them. -/
def text (middle : Char) (t : LocalTime) : Text :=
  dateText t.day ++ middle :: hourMinuteText t.second ++ ':' :: Decimal.padded 2 t.secondOfMinute ++
    fractionText (t.nano % 1000000000)

/-- The form on the wire. -/
def wireText : LocalTime → Text := text 'T'

/-- The form in messages. -/
def shownText : LocalTime → Text := text ' '

/-- The form of the engine, which knows minutes only and counts in UTC. -/
def minuteText (t : LocalTime) : Text :=
  dateText t.day ++ 'T' :: hourMinuteText t.second ++ ['Z']

/-- The form in job ids: two digits each of the year in its century, month and day, then of the time. -/
def stampText (t : LocalTime) : Text :=
  let date := Day.civil t.day
  Decimal.padded 2 (date.year % 100).natAbs ++ Decimal.padded 2 date.month.natAbs ++
    Decimal.padded 2 date.day.natAbs ++ '-' :: Decimal.padded 2 (t.second / 3600) ++
    Decimal.padded 2 (t.second / 60 % 60) ++ Decimal.padded 2 t.secondOfMinute

/-! ## Reading -/

/-- Why a text is not a wall-clock reading. -/
inductive ReadError
  | tooShort | unexpected | tooLong | outOfRange
deriving DecidableEq, Repr

def ReadError.message : ReadError → Text
  | tooShort => "premature end of input".toList
  | unexpected => "input contains invalid characters".toList
  | tooLong => "trailing input".toList
  | outOfRange => "input is out of range".toList

def trimStart (s : Text) : Text := s.dropWhile Text.isBlankChar

/-- A number of one digit to `most`, and what follows it. -/
def readDigits (most : Nat) (s : Text) : Except ReadError (Nat × Text) :=
  let digits := (s.takeWhile Decimal.isDigit).take most
  if digits.isEmpty then .error (if s.isEmpty then .tooShort else .unexpected)
  else .ok (Decimal.valueOf digits, s.drop digits.length)

/-- A number of one or two digits between two bounds, with blanks before it. -/
def readPart (least largest : Nat) (s : Text) : Except ReadError (Nat × Text) := do
  let (n, rest) ← readDigits 2 (trimStart s)
  if least ≤ n && n ≤ largest then return (n, rest) else .error .outOfRange

/-- A year that has a sign may have any number of digits, one without has at most four. -/
def readYear (s : Text) : Except ReadError (Int × Text) := do
  let s := trimStart s
  let (year, rest) ← match s with
    | '-' :: digits => do
      let (n, rest) ← readDigits digits.length digits
      pure (-(n : Int), rest)
    | '+' :: digits => do
      let (n, rest) ← readDigits digits.length digits
      pure ((n : Int), rest)
    | _ => do
      let (n, rest) ← readDigits 4 s
      pure ((n : Int), rest)
  if -2147483648 ≤ year && year ≤ 2147483647 then return (year, rest) else .error .outOfRange

/-- A fixed character. -/
def readMark (mark : Char) (s : Text) : Except ReadError Text :=
  match s with
  | [] => .error .tooShort
  | c :: rest => if c = mark then .ok rest else .error .unexpected

/-- A fraction behind a point, in billionths; what is finer is dropped. -/
def readFraction (s : Text) : Except ReadError (Nat × Text) :=
  match s with
  | '.' :: rest => do
    let (n, _) ← readDigits 9 rest
    let width := min 9 (rest.takeWhile Decimal.isDigit).length
    return (n * Nat.pow 10 (9 - width), rest.dropWhile Decimal.isDigit)
  | _ => .ok (0, s)

/-- The numbers of a reading as they were written. -/
structure Parts where
  year : Int
  month : Nat
  day : Nat
  hour : Nat
  minute : Nat
  second : Nat
  nano : Nat
deriving DecidableEq, Repr

/-- The numbers of a reading in a row, each in its bounds, and what follows them. -/
def readParts (s : Text) : Except ReadError (Parts × Text) := do
  let (year, s) ← readYear s
  let s ← readMark '-' (trimStart s)
  let (month, s) ← readPart 1 12 s
  let s ← readMark '-' (trimStart s)
  let (day, s) ← readPart 1 31 s
  let s ← readMark 'T' (trimStart s)
  let (hour, s) ← readPart 0 23 s
  let s ← readMark ':' (trimStart s)
  let (minute, s) ← readPart 0 59 s
  let s ← readMark ':' (trimStart s)
  let (second, s) ← readPart 0 60 s
  let (nano, s) ← readFraction s
  return (⟨year, month, day, hour, minute, second, nano⟩, s)

/-- The reading with these numbers, if the month has that day and the year is in range.  The sixtieth second is the
fifty-ninth with a billion more. -/
def Parts.time? (p : Parts) : Option LocalTime :=
  if (p.day : Int) ≤ Day.monthLength p.year p.month then
    make? (Day.ofCivil p.year p.month p.day) (p.hour * 3600 + p.minute * 60 + min p.second 59)
      (if p.second = 60 then p.nano + 1000000000 else p.nano)
  else none

/-- A text that is a wall-clock reading from end to end. -/
def ofText (s : Text) : Except ReadError LocalTime := do
  let (parts, rest) ← readParts s
  if !Text.isBlank rest then .error .tooLong
  else match parts.time? with
    | some time => .ok time
    | none => .error .outOfRange

/-- How far a clock is ahead of UTC, in seconds: `Z`, or a sign, hours and minutes. -/
def readOffset? : Text → Option Int
  | ['Z'] => some 0
  | ['z'] => some 0
  | sign :: h :: i :: ':' :: m :: n :: [] => do
    let hours ← Decimal.toNat? [h, i]
    let minutes ← Decimal.toNat? [m, n]
    let ahead : Int := hours * 3600 + minutes * 60
    if sign = '+' then some ahead else if sign = '-' then some (-ahead) else none
  | _ => none

/-- An instant: a wall-clock reading and how far its clock is ahead of UTC.  The result counts in UTC. -/
def ofInstantText? (s : Text) : Option LocalTime := do
  let zone := if s.getLast? == some 'Z' || s.getLast? == some 'z' then 1 else 6
  let cut := s.length - zone
  let ahead ← readOffset? (s.drop cut)
  let time ← (ofText (s.take cut)).toOption
  time.moved? (-ahead)

end LocalTime
end ImportDispatch
