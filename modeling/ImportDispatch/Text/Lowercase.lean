import ImportDispatch.Text
import ImportDispatch.Text.CaseTable
/-!
# Small letters

The default mapping of the Unicode standard to small letters.  It is the same for every language, acts on one
character at a time with two exceptions, and never acts on a character that is small already:

- the capital I with a dot above becomes an `i` and a combining dot;
- the capital sigma becomes the final sigma where a word ends: a letter stands before it, and none behind it.
-/
namespace ImportDispatch

namespace CaseTable

/-- Whether the code point lies in one of the ranges. -/
def covers (ranges : List (Nat × Nat)) (n : Nat) : Bool :=
  ranges.any fun r => r.1 ≤ n && n ≤ r.2

/-- Whether the row lists the code point. -/
def Capitals.lists (row : Capitals) (n : Nat) : Bool :=
  row.first ≤ n && n ≤ row.last && (n - row.first) % row.stride == 0

/-- The small form of a code point, itself if it has none of its own. -/
def smallForm (n : Nat) : Nat :=
  match capitals.find? (·.lists n) with
  | some row => (n + row.shift).toNat
  | none => n

end CaseTable

namespace Text

/-- A character that has letter case and is not passed over. -/
def isCased (c : Char) : Bool := CaseTable.covers CaseTable.cased c.toNat

/-- A character that is passed over when the letters around another one are looked at. -/
def isPassedOver (c : Char) : Bool := CaseTable.covers CaseTable.passedOver c.toNat

/-- The small form of a character apart from its place in a word. -/
def lowerChar (c : Char) : Text :=
  if c.toNat < 128 then [c.toLower]
  else if c.toNat = 0x130 then ['i', Char.ofNat 0x307]
  else [Char.ofNat (CaseTable.smallForm c.toNat)]

/-- Whether a letter comes next, after characters that are passed over. -/
def startsWithLetter (s : Text) : Bool :=
  match s.dropWhile isPassedOver with
  | [] => false
  | c :: _ => isCased c

/-- The small form of a text that stands behind a letter, or does not. -/
def lowercaseAfter (behindLetter : Bool) : Text → Text
  | [] => []
  | c :: rest =>
    let small :=
      if c.toNat = 0x3A3 then [if behindLetter && !startsWithLetter rest then 'ς' else 'σ'] else lowerChar c
    small ++ lowercaseAfter (if isPassedOver c then behindLetter else isCased c) rest

def lowercase (s : Text) : Text := lowercaseAfter false s

end Text
end ImportDispatch
