/-!
# Words

The whole numbers that a word of 64 bits holds, without a sign and with one.
-/
namespace ImportDispatch
namespace Word

/-- The largest number without a sign: all 64 bits are set. -/
def largest : Nat := 18446744073709551615

/-- The largest number with a sign. -/
def largestSigned : Int := 9223372036854775807

/-- The least number with a sign. -/
def leastSigned : Int := -9223372036854775808

/-- Whether a word with a sign holds the number. -/
def holdsSigned (n : Int) : Bool := leastSigned ≤ n && n ≤ largestSigned

/-- A number brought into the range of a word with a sign, from the side it lies on. -/
def saturate (n : Int) : Int := max leastSigned (min largestSigned n)

end Word
end ImportDispatch
