import TwinView.Decimal.Binary
import TwinView.Text.Count

/-!
The shortest decimal text that reads back as a given binary value. Of two decimals of that length the
nearer one is taken, and of two equally near the larger. The text is positional, never with an exponent.

The decimals that read back lie between the midpoints to the two neighbouring values; a midpoint itself
counts when the significand is even. Grids of powers of ten are tried from coarse to fine, and on each grid
only the two points around the value can be the nearest.
-/

namespace TwinView.Decimal

structure Scaled where
  digits : Nat
  power : Int

/-- A value with the interval that reads back as it, over one denominator. -/
structure Target where
  value : Nat
  lower : Nat
  upper : Nat
  denominator : Nat
  closed : Bool

namespace Target

/-- In units of a quarter of the last bit. Below a power of two the next value is half as far away. -/
def ofBinary (significand : Nat) (exponent : Int) : Target :=
  let gap := if significand = Binary.leastFull then 1 else 2
  let unit := Nat.pow 2 (exponent - 2).toNat
  { value := 4 * significand * unit
    lower := (4 * significand - gap) * unit
    upper := (4 * significand + 2) * unit
    denominator := Nat.pow 2 (2 - exponent).toNat
    closed := significand % 2 = 0 }

def contains (target : Target) (numerator denominator : Nat) : Bool :=
  let point := numerator * target.denominator
  let lower := target.lower * denominator
  let upper := target.upper * denominator
  if target.closed then lower ≤ point && point ≤ upper else lower < point && point < upper

/-- The nearest point of the grid `10 ^ power` that reads back. -/
def onGrid (target : Target) (power : Int) : Option Nat :=
  let step := Nat.pow 10 power.toNat
  let parts := Nat.pow 10 (-power).toNat
  let below := target.value * parts / (target.denominator * step)
  let reads := fun count => target.contains (count * step) parts
  let rest := target.value * parts % (target.denominator * step)
  if reads below && reads (below + 1) then
    if 2 * rest < target.denominator * step then some below else some (below + 1)
  else if reads below then some below
  else if reads (below + 1) then some (below + 1)
  else none

/-- Tries `steps` grids downwards from the one above `bottom + steps`; on the last one the value lies. -/
def search (target : Target) (bottom : Int) : Nat → Scaled
  | 0 => ⟨(target.onGrid bottom).getD 0, bottom⟩
  | steps + 1 =>
      match target.onGrid (bottom + (steps + 1)) with
      | some digits => ⟨digits, bottom + (steps + 1)⟩
      | none => search target bottom steps

def ceiling (target : Target) : Int :=
  (Nat.toDigits 10 (target.value / target.denominator)).length

def shortest (target : Target) (bottom : Int) : Scaled :=
  target.search bottom (target.ceiling - bottom).toNat

end Target

/-- Digits without zeros at the end, the last digit first. -/
def trimZeros (digits : List Char) : List Char :=
  (digits.reverse.dropWhile (· == '0')).reverse

def positional (scaled : Scaled) : String :=
  let digits := trimZeros (Nat.toDigits 10 scaled.digits)
  let point := (Nat.toDigits 10 scaled.digits).length + scaled.power
  if point ≤ 0 then
    String.ofList ('0' :: '.' :: List.replicate (-point).toNat '0' ++ digits)
  else if digits.length ≤ point.toNat then
    String.ofList (digits ++ List.replicate (point.toNat - digits.length) '0' ++ ['.', '0'])
  else
    String.ofList (digits.take point.toNat ++ '.' :: digits.drop point.toNat)

def Binary.text : Binary → String
  | .notANumber => "NaN"
  | .infinite negative => if negative then "-inf" else "inf"
  | .finite negative significand exponent =>
      let unsigned :=
        if significand = 0 then "0.0"
        else positional ((Target.ofBinary significand exponent).shortest (min (exponent - 2) 0))
      if negative then "-" ++ unsigned else unsigned

end TwinView.Decimal
