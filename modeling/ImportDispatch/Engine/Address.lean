import ImportDispatch.Text.Percent
/-!
# Addresses

The address of the engine as it is sent over the wire.  An address begins with its scheme; what follows the host is the
target: a path, in which dots are followed and backslashes count as slashes, and a query.  A fragment is not sent.
-/
namespace ImportDispatch

/-- An address that names a host: scheme and host, and what is asked for there. -/
structure Address where
  origin : Text
  target : Text
deriving DecidableEq, Repr

namespace Address

def isLetter (c : Char) : Bool := ('a' ≤ c && c ≤ 'z') || ('A' ≤ c && c ≤ 'Z')

/-- What a scheme may be made of. -/
def isScheme (s : Text) : Bool :=
  s.head?.any isLetter && s.all fun c => isLetter c || Decimal.isDigit c || c == '+' || c == '-' || c == '.'

/-- What separates the parts of a path. -/
def isSlash (c : Char) : Bool := c == '/' || c == '\\'

/-- A part of a path that stays where it is. -/
def isDot (part : Text) : Bool := Text.replace "%2e".toList ['.'] (Text.asciiLower part) == ['.']

/-- A part of a path that goes up. -/
def isDoubleDot (part : Text) : Bool := Text.replace "%2e".toList ['.'] (Text.asciiLower part) == ['.', '.']

/-- The parts of a path with its dots followed; `done` holds those before, the latest first.  A path that ends with a
dot ends with a slash. -/
def followDots : List Text → List Text → List Text
  | done, [] => done.reverse
  | done, [last] =>
    if isDot last then ([] :: done).reverse
    else if isDoubleDot last then ([] :: done.tail).reverse
    else (last :: done).reverse
  | done, part :: rest =>
    if isDot part then followDots done rest
    else if isDoubleDot part then followDots done.tail rest
    else followDots (part :: done) rest

/-- What may not stand in a path as it is. -/
def barredInPath : List Char := [' ', '"', '<', '>', '\x60', '#', '?', '\x7b', '\x7d']

/-- What may not stand in a query as it is. -/
def barredInQuery : List Char := [' ', '"', '#', '<', '>', '\'']

def pathText (path : Text) : Text :=
  let parts := Text.splitBy isSlash (if path.head?.any isSlash then path.tail else path)
  '/' :: Text.join ['/'] (followDots [] (parts.map (Text.percentEncode barredInPath)))

/-- A query with its question mark as it is sent. -/
def queryText (query : Text) : Text := Text.percentEncode barredInQuery query

/-- The text without what surrounds an address by accident: blanks and control characters at its ends, and line breaks
and tabs anywhere. -/
def tidy (s : Text) : Text :=
  (Text.trimBoth (fun c => c.toNat ≤ 0x20) s).filter fun c => c != '\t' && c != '\n' && c != '\r'

/-- An address that names a host; nothing if it does not begin with a scheme. -/
def ofText? (s : Text) : Option Address :=
  let s := tidy s
  let scheme := s.takeWhile (· != ':')
  if !isScheme scheme || scheme.length = s.length then none
  else
    let behind := (s.drop (scheme.length + 1)).dropWhile isSlash
    let isEnd := fun c => isSlash c || c == '?' || c == '#'
    let host := behind.takeWhile fun c => !isEnd c
    let rest := (behind.dropWhile fun c => !isEnd c).takeWhile (· != '#')
    let path := rest.takeWhile (· != '?')
    let query := rest.dropWhile (· != '?')
    some ⟨Text.asciiLower scheme ++ "://".toList ++ Text.asciiLower host, pathText path ++ queryText query⟩

end Address
end ImportDispatch
