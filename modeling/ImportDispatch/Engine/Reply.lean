import ImportDispatch.Json.Reader
import ImportDispatch.Wire.Decode
/-!
# The reply of the engine

The engine answers a submission with a record of one field, the id it gave to the job.  The reply is read from left to
right and the first thing that is wrong with it is reported with its place, so that whoever runs the service finds it in
the text.  Other fields are passed over, and a list of one text will do as well.
-/
namespace ImportDispatch

/-- Why a reply has no id. -/
inductive ReplyFault
  /-- It is not JSON. -/
  | malformed (fault : Json.Fault)
  /-- It is JSON, but not what was expected; this was found at the given place. -/
  | unfit (error : DecodeError) (line column : Nat)
deriving DecidableEq, Repr

def ReplyFault.message : ReplyFault → Text
  | malformed fault => fault.message
  | unfit error line column => error.message ++ Json.placeText line column

namespace Reply

open Json (Cursor)

def type : RecordType where
  name := "SubmitResponse".toList
  fields := [.of "id" Decoder.text]

def idField : Text := "id".toList

/-- A reading ends here because of the text. -/
def broken {α : Type} (fault : Json.Fault) : Except ReplyFault α := .error (.malformed fault)

/-- A reading ends here because of what the text says. -/
def unfit {α : Type} (error : DecodeError) (here : Cursor) : Except ReplyFault α :=
  .error (.unfit error here.line here.column)

/-- A value of another type than the wanted one.  A list or an object is told at its bracket, anything else behind its
last character. -/
def mismatch {α : Type} (wanted : Text) (here : Cursor) : Except ReplyFault α :=
  match here.rest.head? with
  | some '[' => unfit (.wrongType .sequence wanted) here
  | some '\x7b' => unfit (.wrongType .map wanted) here
  | _ =>
    match Json.readValue 1 here with
    | (value, some after) =>
      match Decoder.mismatch wanted value with
      | .malformed fault => broken fault
      | .numberOutOfRange => broken (after.faultHere .numberOutOfRange)
      | error => unfit error after
    | (value, none) => broken (value.firstFault.getD (here.faultHere .endInValue))

/-- The id: a text. -/
def readId (here : Cursor) : Except ReplyFault (Text × Cursor) :=
  let here := here.skipBlanks
  match here.rest with
  | [] => broken (here.faultHere .endInValue)
  | '"' :: rest =>
    match Json.readString (here.past '"' rest) with
    | .error fault => broken fault
    | .ok (.error fault, _) => broken fault
    | .ok (.ok id, after) => .ok (id, after)
  | _ => mismatch "a string".toList here

/-- The place behind a colon. -/
def pastColon (here : Cursor) : Except ReplyFault Cursor :=
  let here := here.skipBlanks
  match here.rest with
  | [] => broken (here.faultHere .endInObject)
  | ':' :: rest => .ok (here.past ':' rest)
  | _ :: _ => broken (here.faultNext .expectedColon)

/-- The place behind a value that nobody asks for. -/
def pastValue (here : Cursor) : Except ReplyFault Cursor :=
  match Json.readValue (2 * here.rest.length + 2) here with
  | (_, some after) => .ok after
  | (value, none) => broken (value.firstFault.getD (here.faultHere .endInValue))

/-- The name of the next member and the place behind it. -/
def readName (here : Cursor) : Except ReplyFault (Text × Cursor) :=
  match here.rest with
  | [] => broken (here.faultHere .endInValue)
  | '"' :: rest =>
    match Json.readString (here.past '"' rest) with
    | .error fault => broken fault
    | .ok (.error fault, _) => broken fault
    | .ok (.ok name, after) => .ok (name, after)
  | '\x7d' :: _ => broken (here.faultNext .trailingComma)
  | _ :: _ => broken (here.faultNext .keyNotString)

/-- Where a reader stands that gives up inside an object: behind its end, if the end comes next. -/
def behindObject (here : Cursor) : Cursor :=
  let here := here.skipBlanks
  match here.rest with
  | '\x7d' :: rest => here.past '\x7d' rest
  | _ => here

/-- The members of the record up to its closing brace, in at most as many steps as there are characters.  The id has to
be there, and only once. -/
def readMembers : Nat → Bool → Option Text → Cursor → Except ReplyFault (Text × Cursor)
  | 0, _, _, here => broken (here.faultHere .endInObject)
  | steps + 1, isFirst, id?, here =>
    let here := here.skipBlanks
    match here.rest with
    | [] => broken (here.faultHere .endInObject)
    | '\x7d' :: rest =>
      let after := here.past '\x7d' rest
      match id? with
      | some id => .ok (id, after)
      | none => unfit (.missing idField) after
    | c :: rest => do
      let here ← if isFirst then .ok here
        else if c = ',' then .ok (here.past ',' rest).skipBlanks
        else broken (here.faultNext .expectedObjectEnd)
      let (name, after) ← readName here
      if name == idField then
        if id?.isSome then unfit (.repeated idField) (behindObject after)
        else
          let (id, after) ← readId (← pastColon after)
          readMembers steps false (some id) after
      else
        readMembers steps false id? (← pastValue (← pastColon after))

/-- The list form up to its closing bracket. -/
def readItems (here : Cursor) : Except ReplyFault (Text × Cursor) :=
  let here := here.skipBlanks
  match here.rest with
  | [] => broken (here.faultHere .endInList)
  | ']' :: rest => unfit (.tooShort 0 type.wantedList) (here.past ']' rest)
  | _ :: _ => do
    let (id, after) ← readId here
    let after := after.skipBlanks
    match after.rest with
    | [] => broken (after.faultHere .endInList)
    | ']' :: rest => return (id, after.past ']' rest)
    | ',' :: rest =>
      let behind := (after.past ',' rest).skipBlanks
      if behind.rest.head? = some ']' then broken (behind.faultNext .trailingComma)
      else broken (behind.faultNext .trailingText)
    | _ :: _ => broken (after.faultNext .trailingText)

/-- The id that a reply gives. -/
def ofText (text : Text) : Except ReplyFault Text := do
  let here := (Cursor.start text).skipBlanks
  let (id, after) ← match here.rest with
    | [] => broken (here.faultHere .endInValue)
    | '[' :: rest => readItems (here.past '[' rest)
    | '\x7b' :: rest => readMembers text.length true none (here.past '\x7b' rest)
    | _ :: _ => mismatch type.wanted here
  let after := after.skipBlanks
  if after.rest.isEmpty then return id else broken (after.faultNext .trailingText)

end Reply
end ImportDispatch
