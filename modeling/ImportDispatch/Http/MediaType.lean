import ImportDispatch.Decimal
/-!
# Media types

The type of a body: two names with a slash between them, the second perhaps with a suffix behind a plus sign, and
parameters behind semicolons.  Letter case plays no part in the names.  Parameters have to be well formed, but what they
say does not matter here.
-/
namespace ImportDispatch
namespace MediaType

/-- What a name may be made of. -/
def isNameChar (c : Char) : Bool :=
  ('a' ≤ c && c ≤ 'z') || ('A' ≤ c && c ≤ 'Z') || Decimal.isDigit c || "!#$%&'*+-.^_\x60|~".toList.elem c

/-- What may stand in a quoted value. -/
def isQuotedChar (c : Char) : Bool := 0x1F < c.toNat && c.toNat < 0x7F

/-- What follows the closing quote of a value; the opening one is passed.  The value has at least one character, so that
the first one closes nothing, whatever it is. -/
def behindQuoted? (s : Text) : Option Text :=
  match s with
  | [] => none
  | c :: rest =>
    let value := c :: rest.takeWhile (· != '"')
    match rest.dropWhile (· != '"') with
    | '"' :: behind => if value.all isQuotedChar then some behind else none
    | _ => none

/-- What follows the value of a parameter, from its semicolon on; nothing is left behind the last one. -/
def behindValue? (s : Text) : Option Text :=
  match s with
  | '"' :: quoted => do
    match (← behindQuoted? quoted).dropWhile (· == ' ') with
    | [] => return []
    | ';' :: rest => return ';' :: rest
    | _ :: _ => none
  | _ =>
    match s.dropWhile isNameChar, (s.takeWhile isNameChar).isEmpty with
    | [], _ => some []
    | ';' :: rest, false => some (';' :: rest)
    | _, _ => none

/-- Whether the text is a row of parameters, each behind a semicolon, in at most as many steps as it has characters.
Behind the last semicolon there may be none. -/
def areParameters : Nat → Text → Bool
  | _, [] => true
  | 0, _ :: _ => false
  | steps + 1, c :: rest =>
    let parameter := rest.dropWhile (· == ' ')
    c == ';' && (parameter.isEmpty || (!(parameter.takeWhile isNameChar).isEmpty &&
      match parameter.dropWhile isNameChar with
      | '=' :: value =>
        match behindValue? value with
        | some rest => areParameters steps rest
        | none => false
      | _ => false))

/-- The second name without its suffix, and the suffix.  The last plus sign that is not the first character counts. -/
def splitSuffix (name : Text) : Text × Option Text :=
  match Text.beforeLast '+' (name.drop 1) with
  | some front => (name.take 1 ++ front, some (name.drop (front.length + 2)))
  | none => (name, none)

/-- The name of the format. -/
def jsonName : Text := "json".toList

/-- Whether a body of this type is JSON. -/
def isJson (s : Text) : Bool :=
  let main := s.takeWhile isNameChar
  match s.dropWhile isNameChar with
  | '/' :: rest =>
    let (name, suffix) := splitSuffix (Text.asciiLower (rest.takeWhile isNameChar))
    Text.asciiLower main == "application".toList && (name == jsonName || suffix == some jsonName) &&
      areParameters s.length (rest.dropWhile isNameChar)
  | _ => false

end MediaType
end ImportDispatch
