import ImportDispatch.Decimal
/-!
# Binary fractions of double precision

A number with a fraction is held as the double nearest to it, and shown with the fewest digits that lead back to the
same double.  Both steps are exact arithmetic on whole numbers: a finite double is `mantissa * 2 ^ exponent`, with a
mantissa below `2 ^ 53` and an exponent from `-1074` to `971`.
-/
namespace ImportDispatch

/-- A finite double that is not negative. -/
structure Binary where
  mantissa : Nat
  exponent : Int
deriving Repr, DecidableEq

namespace Binary

/-- `2 ^ e` as a numerator, for an exponent that is not negative. -/
def twos (e : Int) : Nat := Nat.pow 2 e.toNat

/-- `10 ^ e` as a numerator, for an exponent that is not negative. -/
def tens (e : Int) : Nat := Nat.pow 10 e.toNat

/-- The least mantissa that fills its 53 bits. -/
def leastWide : Nat := Nat.pow 2 52

/-! ## The nearest double -/

/-- The quotient rounded to a whole number, a half to the even neighbour. -/
def roundEven (num den : Nat) : Nat :=
  let m := num / den
  let r := num % den
  if 2 * r > den || (2 * r == den && m % 2 == 1) then m + 1 else m

/-- The double nearest to a positive quotient, nothing beyond the largest one. -/
def ofQuotient? (num den : Nat) : Option Binary :=
  if num = 0 then some ⟨0, -1074⟩
  else
    let guess : Int := (Nat.log2 num : Int) - Nat.log2 den
    let top := if den * twos guess ≤ num * twos (-guess) then guess else guess - 1
    let q := max (top - 52) (-1074)
    let m := roundEven (num * twos (-q)) (den * twos q)
    let (m, q) := if m = leastWide * 2 then (leastWide, q + 1) else (m, q)
    if q > 971 then none else some ⟨m, q⟩

def ofNat? (n : Nat) : Option Binary := ofQuotient? n 1

def times? (x y : Binary) : Option Binary :=
  let e := x.exponent + y.exponent
  ofQuotient? (x.mantissa * y.mantissa * twos e) (twos (-e))

def over? (x y : Binary) : Option Binary :=
  let e := x.exponent - y.exponent
  ofQuotient? (x.mantissa * twos e) (y.mantissa * twos (-e))

/-! ## The fewest digits -/

/-- How `x * 2 ^ e` compares with `y * 10 ^ p`. -/
def compareScaled (x : Nat) (e : Int) (y : Nat) (p : Int) : Ordering :=
  compare (x * twos e * tens (-p)) (y * tens p * twos (-e))

/-- The place of the leading digit of a positive quotient: `0` for `1` up to `10`. -/
def leadingPlace (num den : Nat) : Int :=
  if den ≤ num then ((Decimal.ofNat (num / den)).length : Int) - 1
  else
    let t := (Decimal.ofNat (den / num)).length
    if den ≤ num * Nat.pow 10 (t - 1) then 1 - (t : Int) else -(t : Int)

/-- Whether the grid point `y * 10 ^ p` reads back as the double: it lies between the midpoints to the two neighbours,
and may lie on one when the mantissa is even. -/
def readsBack (x : Binary) (y : Nat) (p : Int) : Bool :=
  let e := x.exponent - 2
  let below := if x.mantissa = leastWide && x.exponent > -1074 then 1 else 2
  let low := compareScaled (4 * x.mantissa - below) e y p
  let high := compareScaled (4 * x.mantissa + 2) e y p
  if x.mantissa % 2 = 0 then low != .gt && high != .lt else low == .lt && high == .gt

/-- The nearer of two neighbouring grid points that both read back, the even one of a tie. -/
def nearer (x : Binary) (y : Nat) (p : Int) : Nat :=
  match compareScaled (2 * x.mantissa) x.exponent (2 * y + 1) p with
  | .lt => y
  | .gt => y + 1
  | .eq => if y % 2 = 0 then y else y + 1

/-- A grid point of `10 ^ p` that reads back as the double, if there is one. -/
def onGrid? (x : Binary) (p : Int) : Option Nat :=
  let y := x.mantissa * twos x.exponent * tens (-p) / (twos (-x.exponent) * tens p)
  match readsBack x y p, readsBack x (y + 1) p with
  | true, true => some (nearer x y p)
  | true, false => some y
  | false, true => some (y + 1)
  | false, false => none

/-- The digits of a positive double and the place of the leading one: the fewest digits that read back. -/
def shortest (x : Binary) : Text × Int :=
  let top := leadingPlace (x.mantissa * twos x.exponent) (twos (-x.exponent))
  let found : Option (Nat × Int) := (List.range 17).findSome? fun (k : Nat) =>
    let p := top - (k : Int)
    (onGrid? x p).map fun y => (y, p)
  match found with
  | some (y, p) =>
    let digits := Decimal.ofNat y
    (Text.trimEnd (· == '0') digits, p + digits.length - 1)
  | none => (['0'], 0)

/-- The layout of shown fractions: positional from `0.00001` up to sixteen places, with one digit behind the point at
least; beyond that one digit before the point, and an exponent with its sign and two digits or more. -/
def text (x : Binary) : Text :=
  if x.mantissa = 0 then "0.0".toList
  else
    let (digits, place) := shortest x
    if -5 ≤ place && place < 0 then
      "0.".toList ++ List.replicate (-place - 1).toNat '0' ++ digits
    else if 0 ≤ place && place < 16 then
      let n := place.toNat + 1
      let whole := digits.take n ++ List.replicate (n - digits.length) '0'
      let fraction := digits.drop n
      whole ++ '.' :: (if fraction.isEmpty then ['0'] else fraction)
    else
      let fraction := digits.drop 1
      digits.take 1 ++ (if fraction.isEmpty then [] else '.' :: fraction) ++
        'e' :: (if place < 0 then '-' else '+') :: Decimal.padded 2 place.natAbs

end Binary
end ImportDispatch
