import ImportDispatch.Hexadecimal
import ImportDispatch.Json
/-!
# Writing JSON

The shortest form: no blanks, the members in their order, in strings only what has to be escaped.
-/
namespace ImportDispatch
namespace Json

/-- One character of a string. -/
def escapeChar (c : Char) : Text :=
  if c = '"' then ['\\', '"']
  else if c = '\\' then ['\\', '\\']
  else if c = '\n' then ['\\', 'n']
  else if c = '\r' then ['\\', 'r']
  else if c = '\t' then ['\\', 't']
  else if c = '\x08' then ['\\', 'b']
  else if c = '\x0c' then ['\\', 'f']
  else if c.toNat < 0x20 then ['\\', 'u', '0', '0', Hexadecimal.digit (c.toNat / 16), Hexadecimal.digit c.toNat]
  else [c]

/-- A string between its quotes. -/
def printString (s : Text) : Text := '"' :: s.flatMap escapeChar ++ ['"']

mutual

/-- The text of a value.  A break has none of its own and is written as `null`. -/
def print : Json → Text
  | .null => "null".toList
  | .bool b => if b then "true".toList else "false".toList
  | .number n => n.text
  | .string s => printString s
  | .array items => '[' :: printItems items ++ [']']
  | .object members => '\x7b' :: printMembers members ++ ['\x7d']
  | .fault _ => "null".toList
  | .unreadable _ => "null".toList

def printItems : List Json → Text
  | [] => []
  | [item] => print item
  | item :: rest => print item ++ ',' :: printItems rest

def printMembers : List (Text × Json) → Text
  | [] => []
  | [(key, value)] => printString key ++ ':' :: print value
  | (key, value) :: rest => printString key ++ ':' :: print value ++ ',' :: printMembers rest

end

end Json
end ImportDispatch
