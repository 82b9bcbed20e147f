import ImportDispatch.Text
/-!
# Decimal numbers as text

Whole numbers are written with the digits `0` to `9`, the shortest way or padded with zeros to a width, and read from
ASCII digits only.
-/
namespace ImportDispatch
namespace Decimal

/-! ## Writing -/

/-- The digits of the number, without leading zeros. -/
def ofNat (n : Nat) : Text := Nat.toDigits 10 n

/-- The digits of the number behind a minus sign where it is negative. -/
def ofInt (n : Int) : Text :=
  if n < 0 then '-' :: ofNat n.natAbs else ofNat n.natAbs

/-- The digits of the number, with leading zeros up to the width. -/
def padded (width n : Nat) : Text :=
  List.replicate (width - (ofNat n).length) '0' ++ ofNat n

/-! ## Reading -/

def isDigit (c : Char) : Bool := '0' ≤ c && c ≤ '9'

def digitValue (c : Char) : Nat := c.toNat - '0'.toNat

/-- The number that a row of digits writes. -/
def valueOf (digits : Text) : Nat :=
  digits.foldl (fun n c => 10 * n + digitValue c) 0

/-- A whole number from one or more digits and nothing else. -/
def toNat? (s : Text) : Option Nat :=
  if !s.isEmpty && s.all isDigit then some (valueOf s) else none

/-- A whole number up to `largest`, with or without a plus sign in front. -/
def upTo? (largest : Nat) (s : Text) : Option Nat := do
  let digits := match s with
    | '+' :: rest => rest
    | other => other
  let n ← toNat? digits
  if n ≤ largest then some n else none

end Decimal
end ImportDispatch
