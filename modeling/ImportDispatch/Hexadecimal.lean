import ImportDispatch.Decimal
/-!
# Hexadecimal digits

The sixteen digits, read in either letter case and written in one of them.
-/
namespace ImportDispatch
namespace Hexadecimal

def value? (c : Char) : Option Nat :=
  if Decimal.isDigit c then some (Decimal.digitValue c)
  else if 'a' ≤ c && c ≤ 'f' then some (c.toNat - 'a'.toNat + 10)
  else if 'A' ≤ c && c ≤ 'F' then some (c.toNat - 'A'.toNat + 10)
  else none

def isDigit (c : Char) : Bool := (value? c).isSome

/-- The last digit of a number, as a small letter where it is one. -/
def digit (n : Nat) : Char := Nat.digitChar (n % 16)

/-- The last digit of a number, as a capital letter where it is one. -/
def capital (n : Nat) : Char := (digit n).toUpper

end Hexadecimal
end ImportDispatch
