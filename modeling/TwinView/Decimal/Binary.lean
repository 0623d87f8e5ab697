/-!
Binary floating point with 53 significant bits, as exact numbers `significand * 2 ^ exponent`, and the
rounding of a decimal number to the nearest of them. A tie goes to the even significand.
-/

namespace TwinView.Decimal

inductive Binary where
  | notANumber
  | infinite (negative : Bool)
  | finite (negative : Bool) (significand : Nat) (exponent : Int)
  deriving DecidableEq

namespace Binary

/-- The least exponent; below it significands lose bits instead. -/
def leastExponent : Int := -1074

def greatestExponent : Int := 971

def leastFull : Nat := 0x10000000000000

/-- A number of more digits than this in front of the point is beyond every finite value. -/
def mostDigits : Int := 310

/-- A number with this many zeros behind the point is nearer to zero than to any other value. -/
def mostZeros : Int := 330

/-- `numerator / denominator` to the nearest whole number, a half to the even one. -/
def roundEven (numerator denominator : Nat) : Nat :=
  let whole := numerator / denominator
  let rest := numerator % denominator
  if denominator < 2 * rest then whole + 1
  else if 2 * rest = denominator ∧ whole % 2 = 1 then whole + 1
  else whole

/-- The fraction divided by `2 ^ exponent`, as numerator and denominator. -/
def scale (numerator denominator : Nat) (exponent : Int) : Nat × Nat :=
  (numerator * Nat.pow 2 (-exponent).toNat, denominator * Nat.pow 2 exponent.toNat)

def ofFraction (negative : Bool) (numerator denominator : Nat) : Binary :=
  let guess : Int := max leastExponent (numerator.log2 - denominator.log2 - 53)
  let (top, bottom) := scale numerator denominator guess
  let exponent := if 2 * leastFull ≤ top / bottom then guess + 1 else guess
  let (top, bottom) := scale numerator denominator exponent
  let rounded := roundEven top bottom
  let (significand, exponent) :=
    if rounded = 2 * leastFull then (leastFull, exponent + 1) else (rounded, exponent)
  if greatestExponent < exponent then .infinite negative
  else .finite negative significand exponent

/-- The nearest value to `digits * 10 ^ power`. -/
def ofDecimal (negative : Bool) (digits : Nat) (power : Int) : Binary :=
  let length : Int := (Nat.toDigits 10 digits).length
  if digits = 0 then .finite negative 0 leastExponent
  else if mostDigits < length + power then .infinite negative
  else if length + power < -mostZeros then .finite negative 0 leastExponent
  else ofFraction negative (digits * Nat.pow 10 power.toNat) (Nat.pow 10 (-power).toNat)

end Binary

end TwinView.Decimal
