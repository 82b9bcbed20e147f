import ImportDispatch.Calendar.TimeText
import ImportDispatch.Json
import ImportDispatch.Text.Quoted
/-!
# From JSON to requests

A value is decoded against the type that is wanted, and the first thing that does not fit is reported.  A record may
come as an object, whose members are looked at in the order they are in, or as a list, whose items are the fields in
the order of their declaration.  Members that no field asks for are passed over.
-/
namespace ImportDispatch

/-! ## Errors -/

/-- What was found where something else was wanted. -/
inductive Found
  | null
  | boolean (b : Bool)
  | number (q : Json.Quantity)
  | string (s : Text)
  | sequence
  | map
deriving DecidableEq, Repr

/-- Why a value cannot be decoded. -/
inductive DecodeError
  | wrongType (found : Found) (wanted : Text)
  | wrongValue (found : Found) (wanted : Text)
  /-- A list ends before a field that has to be there. -/
  | tooShort (count : Nat) (wanted : Text)
  /-- A list goes on behind the last field. -/
  | tooLong (count : Nat)
  | missing (field : Text)
  | repeated (field : Text)
  | unknownVariant (name : Text) (known : List Text)
  | badTime (cause : LocalTime.ReadError)
  | numberOutOfRange
  | malformed (fault : Json.Fault)
deriving DecidableEq, Repr

def Json.Quantity.text : Json.Quantity → Text
  | .whole n => Decimal.ofInt n
  | .fractional negative x => (if negative then ['-'] else []) ++ x.text

/-- A name between back quotes. -/
def inBackQuotes (s : Text) : Text := '\x60' :: s ++ ['\x60']

def Found.text : Found → Text
  | null => "null".toList
  | boolean b => "boolean ".toList ++ inBackQuotes (if b then "true".toList else "false".toList)
  | number (.whole n) => "integer ".toList ++ inBackQuotes (Decimal.ofInt n)
  | number (.fractional negative x) =>
    "floating point ".toList ++ inBackQuotes (Json.Quantity.fractional negative x).text
  | string s => "string ".toList ++ Text.quote s
  | sequence => "sequence".toList
  | map => "map".toList

def DecodeError.message : DecodeError → Text
  | wrongType found wanted => "invalid type: ".toList ++ found.text ++ ", expected ".toList ++ wanted
  | wrongValue found wanted => "invalid value: ".toList ++ found.text ++ ", expected ".toList ++ wanted
  | tooShort count wanted => "invalid length ".toList ++ Decimal.ofNat count ++ ", expected ".toList ++ wanted
  | tooLong count => "invalid length ".toList ++ Decimal.ofNat count ++ ", expected fewer elements in array".toList
  | missing field => "missing field ".toList ++ inBackQuotes field
  | repeated field => "duplicate field ".toList ++ inBackQuotes field
  | unknownVariant name known =>
    "unknown variant ".toList ++ inBackQuotes name ++ ", expected one of ".toList ++
      Text.join ", ".toList (known.map inBackQuotes)
  | badTime cause => cause.message
  | numberOutOfRange => Json.Cause.message .numberOutOfRange
  | malformed fault => fault.message

/-! ## Simple values -/

/-- Reads a value of one type. -/
abbrev Decoder (α : Type) := Json → Except DecodeError α

namespace Decoder

/-- The error of a value that is not of the wanted type; a value that cannot be read is reported as that. -/
def mismatch (wanted : Text) : Json → DecodeError
  | .null => .wrongType .null wanted
  | .bool b => .wrongType (.boolean b) wanted
  | .number n =>
    match n.quantity? with
    | some q => .wrongType (.number q) wanted
    | none => .numberOutOfRange
  | .string s => .wrongType (.string s) wanted
  | .array _ => .wrongType .sequence wanted
  | .object _ => .wrongType .map wanted
  | .fault f => .malformed f
  | .unreadable f => .malformed f

def text : Decoder Text
  | .string s => .ok s
  | other => .error (mismatch "a string".toList other)

def flag : Decoder Bool
  | .bool b => .ok b
  | other => .error (mismatch "a boolean".toList other)

/-- What a whole number with a sign is called. -/
def signedWord : Text := "i64".toList

/-- A whole number with a sign, of 64 bits. -/
def integer : Decoder Int64
  | .number n =>
    match n.quantity? with
    | some (.whole i) =>
      if Word.holdsSigned i then .ok (Int64.ofInt i) else .error (.wrongValue (.number (.whole i)) signedWord)
    | some q => .error (.wrongType (.number q) signedWord)
    | none => .error .numberOutOfRange
  | other => .error (mismatch signedWord other)

def time : Decoder LocalTime
  | .string s => (LocalTime.ofText s).mapError .badTime
  | other => .error (mismatch "a formatted date and time string".toList other)

/-- The items of a list, one after the other. -/
def items {α : Type} (item : Decoder α) : List Json → Except DecodeError (List α)
  | [] => .ok []
  | v :: rest => do
    let x ← item v
    return x :: (← items item rest)

def list {α : Type} (item : Decoder α) : Decoder (List α)
  | .array vs => items item vs
  | other => .error (mismatch "a sequence".toList other)

end Decoder

/-! ## Records -/

/-- A field: its name on the wire, and what its value has to pass. -/
structure Field where
  name : Text
  check : Json → Except DecodeError Unit

/-- A field of a type. -/
def Field.of {α : Type} (name : String) (decode : Decoder α) : Field :=
  ⟨name.toList, fun v => (decode v).map fun _ => ()⟩

/-- The fields of a record in the order of their declaration, and the name of its type. -/
structure RecordType where
  name : Text
  fields : List Field

/-- What a record is called where it is wanted. -/
def RecordType.wanted (type : RecordType) : Text := "struct ".toList ++ type.name

/-- What a list of its fields is called where it is wanted. -/
def RecordType.wantedList (type : RecordType) : Text :=
  type.wanted ++ " with ".toList ++ Decimal.ofNat type.fields.length ++
    (if type.fields.length = 1 then " element".toList else " elements".toList)

/-- Looks at the members of an object in their order: each known field comes once and fits, the others can be read. -/
def checkMembers (fields : List Field) : List Text → List (Text × Json) → Except DecodeError Unit
  | _, [] => .ok ()
  | seen, (key, value) :: rest =>
    match fields.find? (·.name == key) with
    | some field =>
      if seen.elem key then .error (.repeated key)
      else do
        field.check value
        checkMembers fields (key :: seen) rest
    | none =>
      match value.firstFault with
      | some f => .error (.malformed f)
      | none => checkMembers fields seen rest

/-- Where the fields of a record are taken from. -/
inductive FieldSource
  | members (type : RecordType) (members : List (Text × Json))
  | items (type : RecordType) (items : List Json)

namespace FieldSource

/-- The value of a field, by its name and its place in the declaration. -/
def value? (name : Text) (place : Nat) : FieldSource → Option Json
  | members _ ms => (ms.find? (·.1 == name)).map (·.2)
  | items _ vs => vs[place]?

/-- A field that has to be there. -/
def required {α : Type} (source : FieldSource) (name : String) (place : Nat) (decode : Decoder α) :
    Except DecodeError α :=
  match source.value? name.toList place, source with
  | some v, _ => decode v
  | none, members _ _ => .error (.missing name.toList)
  | none, items type _ => .error (.tooShort place type.wantedList)

/-- A field that may be left out. -/
def withDefault {α : Type} (source : FieldSource) (name : String) (place : Nat) (decode : Decoder α) (fallback : α) :
    Except DecodeError α :=
  match source.value? name.toList place with
  | some v => decode v
  | none => .ok fallback

end FieldSource

/-- Nothing stands behind the last field of a list. -/
def checkSurplus (type : RecordType) (items : List Json) : Except DecodeError Unit :=
  match items.drop type.fields.length with
  | [] => .ok ()
  | .fault f :: _ => .error (.malformed f)
  | _ => .error (.tooLong items.length)

/-- A record from an object or a list. -/
def Decoder.record {α : Type} (type : RecordType) (build : FieldSource → Except DecodeError α) : Decoder α
  | .object members => do
    checkMembers type.fields [] members
    build (.members type members)
  | .array items => do
    let x ← build (.items type items)
    checkSurplus type items
    return x
  | other => .error (mismatch type.wanted other)

end ImportDispatch
