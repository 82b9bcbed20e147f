import ImportDispatch.Decimal.Binary
import ImportDispatch.Word
/-!
# JSON values

Requests, the driver registry and every answer are JSON.  A value keeps the members of an object in the order they
were written, because a reader reports the first problem it meets.  A text that breaks off or goes wrong somewhere is
a value too: the `fault` stands where the text could not be read on, so that what comes before it can still be judged
first.
-/
namespace ImportDispatch
namespace Json

/-! ## Faults of a text -/

inductive Cause
  | endInList | endInObject | endInString | endInValue
  | expectedColon | expectedListEnd | expectedObjectEnd | expectedName | expectedValue
  | invalidEscape | invalidNumber | numberOutOfRange | controlCharacter | keyNotString
  | loneSurrogate | halfSurrogatePair | trailingComma | trailingText
deriving DecidableEq, Repr

/-- A cause and where it was met: the line, and how many bytes of the line were read. -/
structure Fault where
  cause : Cause
  line : Nat
  column : Nat
deriving DecidableEq, Repr

def Cause.message : Cause → Text
  | endInList => "EOF while parsing a list".toList
  | endInObject => "EOF while parsing an object".toList
  | endInString => "EOF while parsing a string".toList
  | endInValue => "EOF while parsing a value".toList
  | expectedColon => "expected `:`".toList
  | expectedListEnd => "expected `,` or `]`".toList
  | expectedObjectEnd => "expected `,` or `\x7d`".toList
  | expectedName => "expected ident".toList
  | expectedValue => "expected value".toList
  | invalidEscape => "invalid escape".toList
  | invalidNumber => "invalid number".toList
  | numberOutOfRange => "number out of range".toList
  | controlCharacter => "control character (\\u0000-\\u001F) found while parsing a string".toList
  | keyNotString => "key must be a string".toList
  | loneSurrogate => "lone leading surrogate in hex escape".toList
  | halfSurrogatePair => "unexpected end of hex escape".toList
  | trailingComma => "trailing comma".toList
  | trailingText => "trailing characters".toList

/-- Where something was met, as it is told. -/
def placeText (line column : Nat) : Text :=
  " at line ".toList ++ Decimal.ofNat line ++ " column ".toList ++ Decimal.ofNat column

def Fault.message (f : Fault) : Text := f.cause.message ++ placeText f.line f.column

/-! ## Numbers -/

/-- A number as it was written. -/
structure Numeral where
  negative : Bool
  whole : Nat
  /-- The digits behind the point. -/
  fraction : Text
  exponent : Option Int
deriving DecidableEq, Repr

/-- What a numeral stands for: a whole number of at most 64 bits, or a double. -/
inductive Quantity
  | whole (n : Int)
  | fractional (negative : Bool) (x : Binary)
deriving DecidableEq, Repr

def Numeral.ofInt (n : Int) : Numeral := ⟨n < 0, n.natAbs, [], none⟩

/-- The leading digits of a row that fit a word, and how many others follow. -/
def leadingWord (digits : Text) : Nat × Nat :=
  digits.foldl (fun (n, dropped) c =>
    let next := 10 * n + Decimal.digitValue c
    if dropped = 0 && next ≤ Word.largest then (next, 0) else (n, dropped + 1)) (0, 0)

/-- More digits behind a number as long as they fit a word, and how many were taken. -/
def appendDigits (n : Nat) : Text → Nat × Nat
  | [] => (n, 0)
  | c :: rest =>
    let next := 10 * n + Decimal.digitValue c
    if next ≤ Word.largest then
      let (m, taken) := appendDigits next rest
      (m, taken + 1)
    else (n, 0)

/-- The double for a power of ten that doubles reach. -/
def powerOfTen? (k : Nat) : Option Binary := Binary.ofNat? (Nat.pow 10 k)

/-- A double moved by a power of ten, in steps of at most `308` places; three steps down leave nothing of any word.
Nothing if it grows beyond the largest double. -/
def shift? : Nat → Binary → Int → Option Binary
  | 0, x, _ => some x
  | steps + 1, x, e =>
    if e.natAbs ≤ 308 then do
      let p ← powerOfTen? e.natAbs
      if 0 ≤ e then x.times? p else x.over? p
    else if x.mantissa = 0 then some x
    else if 0 ≤ e then none
    else do
      let p ← powerOfTen? 308
      shift? steps (← x.over? p) (e + 308)

/-- The value of a numeral, nothing if it is beyond every double.  A numeral with neither point nor exponent is whole
as far as 64 bits reach, with a sign down to the least of them; a negative zero is a double. -/
def Numeral.quantity? (n : Numeral) : Option Quantity :=
  let (word, dropped) := leadingWord (Decimal.ofNat n.whole)
  if n.fraction.isEmpty && n.exponent.isNone && dropped = 0 && !n.negative then some (.whole word)
  else if n.fraction.isEmpty && n.exponent.isNone && dropped = 0 && word ≠ 0 && Word.leastSigned ≤ -word then
    some (.whole (-word))
  else do
    let (digits, taken) := appendDigits word n.fraction
    let exponent := (dropped : Int) - taken + n.exponent.getD 0
    let start ← Binary.ofNat? digits
    return .fractional n.negative (← shift? 8 start exponent)

def Numeral.text (n : Numeral) : Text :=
  (if n.negative then ['-'] else []) ++ Decimal.ofNat n.whole ++
    (if n.fraction.isEmpty then [] else '.' :: n.fraction) ++
    (match n.exponent with
      | some e => 'e' :: Decimal.ofInt e
      | none => [])

end Json

/-! ## Values -/

/-- A JSON value, up to the fault where its text breaks, if it does. -/
inductive Json where
  | null
  | bool (b : Bool)
  | number (n : Json.Numeral)
  | string (s : Text)
  | array (items : List Json)
  | object (members : List (Text × Json))
  /-- The text breaks here. -/
  | fault (f : Json.Fault)
  /-- A string whose escapes give no text; it matters only to one who wants the text. -/
  | unreadable (f : Json.Fault)

namespace Json

def int (n : Int) : Json := .number (.ofInt n)

def nat (n : Nat) : Json := int n

def word (s : String) : Json := .string s.toList

/-- An object with fixed keys. -/
def record (members : List (String × Json)) : Json := .object (members.map fun m => (m.1.toList, m.2))

def optional : Option Text → Json
  | some s => .string s
  | none => .null

def texts (items : List Text) : Json := .array (items.map .string)

/-- The member of an object under a key. -/
def get? (key : String) : Json → Option Json
  | .object members => (members.find? (·.1 == key.toList)).map (·.2)
  | _ => none

/-! ## Breaks -/

mutual

/-- The first place where the text of the value breaks. -/
def firstFault : Json → Option Fault
  | .fault f => some f
  | .array items => firstFaultOfItems items
  | .object members => firstFaultOfMembers members
  | _ => none

def firstFaultOfItems : List Json → Option Fault
  | [] => none
  | item :: rest => (firstFault item).or (firstFaultOfItems rest)

def firstFaultOfMembers : List (Text × Json) → Option Fault
  | [] => none
  | (_, value) :: rest => (firstFault value).or (firstFaultOfMembers rest)

end

/-! ## Members in order of their keys -/

/-- The order of keys: character by character, a shorter key before the longer ones it begins. -/
def keyLess : Text → Text → Bool
  | _, [] => false
  | [], _ :: _ => true
  | a :: as, b :: bs => a.toNat < b.toNat || (a == b && keyLess as bs)

/-- Puts a member at its place; a later member replaces an earlier one of the same key. -/
def insertMember (key : Text) (value : Json) : List (Text × Json) → List (Text × Json)
  | [] => [(key, value)]
  | (k, v) :: rest =>
    if keyLess key k then (key, value) :: (k, v) :: rest
    else if key == k then (key, value) :: rest
    else (k, v) :: insertMember key value rest

mutual

/-- The same value with the members of every object in order of their keys, one for each key. -/
def sorted : Json → Json
  | .array items => .array (sortedItems items)
  | .object members => .object (sortedMembers members [])
  | other => other

def sortedItems : List Json → List Json
  | [] => []
  | item :: rest => sorted item :: sortedItems rest

/-- The members put one after the other into those that are sorted already. -/
def sortedMembers : List (Text × Json) → List (Text × Json) → List (Text × Json)
  | [], done => done
  | (key, value) :: rest, done => sortedMembers rest (insertMember key (sorted value) done)

end

end Json
end ImportDispatch
