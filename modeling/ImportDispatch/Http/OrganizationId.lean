import ImportDispatch.Hexadecimal
/-!
# Organization ids

An organization is known by an id of thirty-two hexadecimal digits.  It may be written with hyphens or without, with
hyphens also between braces or behind a prefix, and in any letter case; inside the service it always has one form, so
that one organization has one workspace.
-/
namespace ImportDispatch
namespace OrganizationId

/-- How many digits stand between the hyphens. -/
def groups : List Nat := [8, 4, 4, 4, 12]

/-- The digits in groups, with hyphens between them. -/
def hyphenated : List Nat → Text → Text
  | [], _ => []
  | [_], digits => digits
  | size :: rest, digits => digits.take size ++ '-' :: hyphenated rest (digits.drop size)

/-- The form that the service uses, from the digits alone. -/
def canonical (digits : Text) : Text := hyphenated groups (Text.asciiLower digits)

/-- The digits of an id, if the text is one with hyphens. -/
def plain? (s : Text) : Option Text :=
  let digits := s.filter (· != '-')
  if digits.length = 32 && digits.all Hexadecimal.isDigit && s == hyphenated groups digits then some digits else none

/-- What may stand before an id with hyphens. -/
def urnPrefix : Text := "urn:uuid:".toList

/-- The digits of an id in any of its forms. -/
def digits? (s : Text) : Option Text :=
  if s.length = 32 then (if s.all Hexadecimal.isDigit then some s else none)
  else if s.length = 36 then plain? s
  else if s.length = 38 then
    (if s.head? == some '\x7b' && s.getLast? == some '\x7d' then plain? s.tail.dropLast else none)
  else if s.length = 45 then
    (if Text.asciiLower (s.take 9) == urnPrefix then plain? (s.drop 9) else none)
  else none

/-- The id that a text writes, in the form that the service uses. -/
def ofText? (s : Text) : Option Text := (digits? s).map canonical

end OrganizationId
end ImportDispatch
