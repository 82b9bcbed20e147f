import ImportDispatch.Hexadecimal
import ImportDispatch.Json
/-!
# Reading JSON

A reader moves a cursor over the text.  It is strict: no comments, no byte order mark, no leading zeros, no comma
before a closing bracket, no raw control characters in strings.  A text that goes wrong still gives a value, with the
fault at its place (`Json.fault`), and values may nest as deep as they like.
-/
namespace ImportDispatch
namespace Json

/-! ## The cursor -/

/-- The text still to be read, and how far the reader has come. -/
structure Cursor where
  rest : Text
  line : Nat
  column : Nat
deriving Repr

namespace Cursor

def start (s : Text) : Cursor := ⟨s, 1, 0⟩

def past (c : Char) (rest : Text) (here : Cursor) : Cursor :=
  if c = '\n' then ⟨rest, here.line + 1, 0⟩ else ⟨rest, here.line, here.column + c.utf8Size⟩

def skip : Nat → Cursor → Cursor
  | 0, here => here
  | n + 1, here =>
    match here.rest with
    | [] => here
    | c :: rest => skip n (here.past c rest)

def skipBlanks (here : Cursor) : Cursor :=
  skip (here.rest.takeWhile fun c => c == ' ' || c == '\n' || c == '\t' || c == '\r').length here

/-- A fault behind what was read. -/
def faultHere (here : Cursor) (cause : Cause) : Fault := ⟨cause, here.line, here.column⟩

/-- A fault at the next byte, if there is one. -/
def faultNext (here : Cursor) (cause : Cause) : Fault :=
  match here.rest with
  | [] => ⟨cause, here.line, here.column⟩
  | c :: _ => if c = '\n' then ⟨cause, here.line + 1, 0⟩ else ⟨cause, here.line, here.column + 1⟩

end Cursor

/-! ## Strings -/

/-- Four hexadecimal digits. -/
def hexUnit (here : Cursor) : Except Fault (Nat × Cursor) :=
  match here.rest with
  | a :: b :: c :: d :: _ =>
    let after := here.skip 4
    match Hexadecimal.value? a, Hexadecimal.value? b, Hexadecimal.value? c, Hexadecimal.value? d with
    | some a, some b, some c, some d => .ok (((a * 16 + b) * 16 + c) * 16 + d, after)
    | _, _, _, _ => .error (after.faultHere .invalidEscape)
  | short => .error ((here.skip short.length).faultHere .endInString)

/-- What an escape of one letter stands for. -/
def shortEscape? : Char → Option Char
  | '"' => some '"'
  | '\\' => some '\\'
  | '/' => some '/'
  | 'b' => some '\x08'
  | 'f' => some '\x0c'
  | 'n' => some '\n'
  | 'r' => some '\r'
  | 't' => some '\t'
  | _ => none

/-- What follows the first half of a surrogate pair: the second half and the place behind it, or the reason why there
is none and the place to go on from.  The end of the text is a fault of its own. -/
def secondHalf (here : Cursor) : Except Fault (Except Fault Nat × Cursor) :=
  match here.rest with
  | [] => .error (here.faultHere .endInString)
  | ['\\'] => .error ((here.skip 1).faultHere .endInString)
  | '\\' :: 'u' :: _ => do
    let (unit, after) ← hexUnit (here.skip 2)
    if 0xDC00 ≤ unit && unit ≤ 0xDFFF then return (.ok unit, after)
    else return (.error (after.faultHere .loneSurrogate), after)
  | '\\' :: _ => .ok (.error ((here.skip 2).faultHere .halfSurrogatePair), here)
  | _ :: _ => .ok (.error ((here.skip 1).faultHere .halfSurrogatePair), here)

/-- What one escape stands for, behind its backslash: a character, or the reason why it stands for none. -/
def escape (here : Cursor) : Except Fault (Except Fault Char × Cursor) :=
  match here.rest with
  | [] => .error (here.faultHere .endInString)
  | 'u' :: _ => do
    let (unit, after) ← hexUnit (here.skip 1)
    if 0xDC00 ≤ unit && unit ≤ 0xDFFF then return (.error (after.faultHere .loneSurrogate), after)
    else if 0xD800 ≤ unit && unit ≤ 0xDBFF then do
      let (half, behind) ← secondHalf after
      return (half.map fun low => Char.ofNat (0x10000 + (unit - 0xD800) * 0x400 + (low - 0xDC00)), behind)
    else return (.ok (Char.ofNat unit), after)
  | c :: _ =>
    match shortEscape? c with
    | some d => .ok (.ok d, here.skip 1)
    | none => .error ((here.skip 1).faultHere .invalidEscape)

/-- The rest of a string behind its opening quote, read in at most as many steps as there are characters.  `done` holds
what was read, the latest first, or the first reason why it is no text. -/
def stringTail : Nat → Except Fault Text → Cursor → Except Fault (Except Fault Text × Cursor)
  | 0, _, here => .error (here.faultHere .endInString)
  | steps + 1, done, here =>
    match here.rest with
    | [] => .error (here.faultHere .endInString)
    | '"' :: rest => .ok (done.map List.reverse, here.past '"' rest)
    | '\\' :: rest => do
      let (c, after) ← escape (here.past '\\' rest)
      let next := match done, c with
        | .ok cs, .ok c => .ok (c :: cs)
        | .ok _, .error f => .error f
        | .error f, _ => .error f
      stringTail steps next after
    | c :: rest =>
      if c.toNat < 0x20 then .error ((here.skip 1).faultHere .controlCharacter)
      else stringTail steps (done.map (c :: ·)) (here.past c rest)

/-- A string behind its opening quote. -/
def readString (here : Cursor) : Except Fault (Except Fault Text × Cursor) :=
  stringTail (here.rest.length + 1) (.ok []) here

/-! ## Numbers and names -/

/-- The digits that come next. -/
def digitsNext (here : Cursor) : Text × Cursor :=
  let digits := here.rest.takeWhile Decimal.isDigit
  (digits, here.skip digits.length)

/-- The exponent of a numeral, behind its letter. -/
def readExponent (here : Cursor) : Except Fault (Int × Cursor) :=
  let (negative, here) := match here.rest with
    | '-' :: _ => (true, here.skip 1)
    | '+' :: _ => (false, here.skip 1)
    | _ => (false, here)
  let (digits, after) := digitsNext here
  if digits.isEmpty then
    if here.rest.isEmpty then .error (here.faultHere .endInValue) else .error ((here.skip 1).faultHere .invalidNumber)
  else
    let e : Int := Decimal.valueOf digits
    .ok (if negative then -e else e, after)

/-- The exponent, if one comes next. -/
def exponentNext (here : Cursor) : Except Fault (Option Int × Cursor) :=
  let found := here.rest.head?
  if found = some 'e' || found = some 'E' then do
    let (e, after) ← readExponent (here.skip 1)
    return (some e, after)
  else .ok (none, here)

/-- A numeral behind its sign. -/
def readNumeral (negative : Bool) (here : Cursor) : Except Fault (Numeral × Cursor) := do
  let (digits, after) := digitsNext here
  if digits.isEmpty then
    if here.rest.isEmpty then .error (here.faultHere .endInValue) else .error ((here.skip 1).faultHere .invalidNumber)
  else if digits.length > 1 && digits.head? == some '0' then .error ((here.skip 1).faultNext .invalidNumber)
  else
    let (fraction, after) ← match after.rest with
      | '.' :: _ =>
        let (fraction, behind) := digitsNext (after.skip 1)
        if fraction.isEmpty then
          if behind.rest.isEmpty then .error (behind.faultHere .endInValue)
          else .error (behind.faultNext .invalidNumber)
        else .ok (fraction, behind)
      | _ => .ok ([], after)
    let (exponent, after) ← exponentNext after
    return (⟨negative, Decimal.valueOf digits, fraction, exponent⟩, after)

/-- The letters of a fixed name, behind its first. -/
def readName : Text → Cursor → Except Fault Cursor
  | [], here => .ok here
  | c :: cs, here =>
    match here.rest with
    | [] => .error (here.faultHere .endInValue)
    | d :: rest => if c = d then readName cs (here.past d rest) else .error ((here.skip 1).faultHere .expectedName)

/-! ## Values -/

/-- What was read, and where to go on, unless the text broke. -/
abbrev Reading (α : Type) := α × Option Cursor

/-- A reading that ends with a fault. -/
def broken (f : Fault) : Reading Json := (.fault f, none)

def stringValue (here : Cursor) : Reading Json :=
  match readString here with
  | .error f => broken f
  | .ok (.ok s, after) => (.string s, some after)
  | .ok (.error f, after) => (.unreadable f, some after)

def numberValue (negative : Bool) (here : Cursor) : Reading Json :=
  match readNumeral negative here with
  | .error f => broken f
  | .ok (n, after) => (.number n, some after)

def nameValue (letters : String) (value : Json) (here : Cursor) : Reading Json :=
  match readName letters.toList here with
  | .error f => broken f
  | .ok after => (value, some after)

/-- The members of an object that breaks: the fault takes the place of the next member. -/
def brokenMember (f : Fault) : Reading (List (Text × Json)) := ([([], .fault f)], none)

/-- Joins what one item gave to what the others gave. -/
def Reading.cons {α : Type} (first : α) (others : Reading (List α)) : Reading (List α) :=
  (first :: others.1, others.2)

mutual

/-- The next value, blanks before it skipped.  A character is passed in every second step at least, so twice as many
steps as the text is long, and two for its end, are enough. -/
def readValue : Nat → Cursor → Reading Json
  | 0, here => broken (here.faultHere .endInValue)
  | steps + 1, here =>
    let here := here.skipBlanks
    match here.rest with
    | [] => broken (here.faultHere .endInValue)
    | '"' :: rest => stringValue (here.past '"' rest)
    | '-' :: rest => numberValue true (here.past '-' rest)
    | 'n' :: rest => nameValue "ull" .null (here.past 'n' rest)
    | 't' :: rest => nameValue "rue" (.bool true) (here.past 't' rest)
    | 'f' :: rest => nameValue "alse" (.bool false) (here.past 'f' rest)
    | '[' :: rest =>
      let (items, after) := readItems steps true (here.past '[' rest)
      (.array items, after)
    | '\x7b' :: rest =>
      let (members, after) := readMembers steps true (here.past '\x7b' rest)
      (.object members, after)
    | c :: _ => if Decimal.isDigit c then numberValue false here else broken (here.faultNext .expectedValue)

/-- The items of a list up to its closing bracket. -/
def readItems : Nat → Bool → Cursor → Reading (List Json)
  | 0, _, here => ([.fault (here.faultHere .endInList)], none)
  | steps + 1, isFirst, here =>
    let here := here.skipBlanks
    match here.rest with
    | [] => ([.fault (here.faultHere .endInList)], none)
    | ']' :: rest => ([], some (here.past ']' rest))
    | c :: rest =>
      if isFirst then
        let (item, after) := readValue steps here
        match after with
        | none => ([item], none)
        | some after => .cons item (readItems steps false after)
      else if c = ',' then
        let here := (here.past ',' rest).skipBlanks
        if here.rest.head? = some ']' then ([.fault (here.faultNext .trailingComma)], none)
        else
          let (item, after) := readValue steps here
          match after with
          | none => ([item], none)
          | some after => .cons item (readItems steps false after)
      else ([.fault (here.faultNext .expectedListEnd)], none)

/-- The members of an object up to its closing brace. -/
def readMembers : Nat → Bool → Cursor → Reading (List (Text × Json))
  | 0, _, here => brokenMember (here.faultHere .endInObject)
  | steps + 1, isFirst, here =>
    let here := here.skipBlanks
    match here.rest with
    | [] => brokenMember (here.faultHere .endInObject)
    | '\x7d' :: rest => ([], some (here.past '\x7d' rest))
    | c :: rest =>
      if isFirst then readMember steps here
      else if c = ',' then readMember steps (here.past ',' rest).skipBlanks
      else brokenMember (here.faultNext .expectedObjectEnd)

/-- One member of an object and those behind it. -/
def readMember : Nat → Cursor → Reading (List (Text × Json))
  | 0, here => brokenMember (here.faultHere .endInObject)
  | steps + 1, here =>
    match here.rest with
    | [] => brokenMember (here.faultHere .endInValue)
    | '"' :: rest =>
      match readString (here.past '"' rest) with
      | .error f => brokenMember f
      | .ok (.error f, _) => brokenMember f
      | .ok (.ok key, after) =>
        let here := after.skipBlanks
        match here.rest with
        | [] => ([(key, .fault (here.faultHere .endInObject))], none)
        | ':' :: rest =>
          let (value, after) := readValue steps (here.past ':' rest)
          match after with
          | none => ([(key, value)], none)
          | some after => .cons (key, value) (readMembers steps false after)
        | _ :: _ => ([(key, .fault (here.faultNext .expectedColon))], none)
    | '\x7d' :: _ => brokenMember (here.faultNext .trailingComma)
    | _ :: _ => brokenMember (here.faultNext .keyNotString)

end

/-- A text as one value and nothing behind it but blanks: the value, and the fault of what stands behind it. -/
def read (s : Text) : Json × Option Fault :=
  let (value, after) := readValue (2 * s.length + 2) (Cursor.start s)
  match after with
  | none => (value, none)
  | some here =>
    let here := here.skipBlanks
    (value, if here.rest.isEmpty then none else some (here.faultNext .trailingText))

/-- The value of a text that is JSON from end to end. -/
def ofText? (s : Text) : Option Json :=
  let (value, trailing) := read s
  if value.firstFault.isNone && trailing.isNone then some value else none

end Json
end ImportDispatch
