import PeriphMap.Numeric.Binary64

/-! The shortest decimal that reads back as a given double: the fewest digits, and among decimals
of that many digits the nearest to the double. -/

namespace PeriphMap.Numeric

/-- `coefficient * 10 ^ exponent` -/
structure Decimal where
  coefficient : Nat
  exponent : Int

namespace Decimal

/-- The value as a fraction of natural numbers. -/
def fraction (d : Decimal) : Nat × Nat :=
  if 0 ≤ d.exponent then (d.coefficient * Nat.pow 10 d.exponent.toNat, 1)
  else (d.coefficient, Nat.pow 10 (-d.exponent).toNat)

def digits (d : Decimal) : List Char :=
  Nat.toDigits 10 d.coefficient

/-- The digits without zeros at the end, which change the exponent of the last digit only. -/
def significantDigits (d : Decimal) : List Char :=
  (d.digits.reverse.dropWhile (· == '0')).reverse

/-- The exponent of the first digit. -/
def magnitude (d : Decimal) : Int :=
  d.exponent + d.digits.length - 1

end Decimal

namespace Binary64

/-- The decimals that read back as `x` lie between the middles of `x` and its two neighbours, which
themselves read back as the neighbour with the even rank. -/
def readsBack (x : Binary64) (d : Decimal) : Bool :=
  let (numerator, denominator) := d.fraction
  let twice := numerator * 2 * one
  let low := (unitsAt (x.rank - 1) + x.units) * denominator
  let high := (x.units + unitsAt (x.rank + 1)) * denominator
  if x.rank % 2 = 0 then low ≤ twice && twice ≤ high else low < twice && twice < high

/-- No positive double lies below `10 ^ -deepest`. -/
def deepest : Nat := 324

/-- The exponent of the first decimal digit of `x`. -/
def magnitude (x : Binary64) : Int :=
  (Nat.toDigits 10 (x.units * Nat.pow 10 deepest / one)).length - 1 - deepest

/-- `x` as a fraction of `10 ^ exponent`. -/
def scaled (x : Binary64) (exponent : Int) : Nat × Nat :=
  if 0 ≤ exponent then (x.units, one * Nat.pow 10 exponent.toNat)
  else (x.units * Nat.pow 10 (-exponent).toNat, one)

/-- The multiple of `10 ^ exponent` nearest to `x`, the even one of two. -/
def nearestOn (x : Binary64) (exponent : Int) : Decimal :=
  let (numerator, denominator) := x.scaled exponent
  ⟨roundHalfEven numerator denominator, exponent⟩

/-- Of the multiples of `10 ^ exponent` on both sides of `x`, the one that reads back, or the nearer
one if both do. -/
def onGrid? (x : Binary64) (exponent : Int) : Option Decimal :=
  let (numerator, denominator) := x.scaled exponent
  let below : Decimal := ⟨numerator / denominator, exponent⟩
  let above : Decimal := ⟨numerator / denominator + 1, exponent⟩
  match x.readsBack below, x.readsBack above with
  | true, true => some (x.nearestOn exponent)
  | true, false => some below
  | false, true => some above
  | false, false => none

/-- Seventeen digits tell any two doubles apart, so more are never needed. -/
def shortest (x : Binary64) : Decimal :=
  let shorter? := (List.range 16).findSome? fun more : Nat => x.onGrid? (x.magnitude - more)
  shorter?.getD (x.nearestOn (x.magnitude - 16))

end Binary64
end PeriphMap.Numeric
