import PeriphMap.Json.Value
import PeriphMap.Text.Basic

/-! The number that a numeral stands for. Its significant digits are gathered into 64 bits as far as
they fit, and the result is scaled once by a power of ten. A double is therefore not always the one
nearest to the decimal that is written. -/

namespace PeriphMap.Json

open Numeric

/-- The parts of a numeral as they are written. The digits of the exponent come with whether there
is a minus sign before them. -/
structure Numeral where
  negative : Bool
  whole : List Char
  fraction : Option (List Char)
  exponent : Option (Bool × List Char)

/-- The number is too large for a double. This is seen with `unread` characters of the numeral to
come. -/
structure Overflow where
  unread : Nat

/-- Appends digits to a number as long as it stays within `limit`. The digits from the first one
that does not fit are left over. -/
def appendDigits (limit n : Nat) : List Char → Nat × List Char
  | [] => (n, [])
  | c :: rest =>
    let next := n * 10 + (c.toNat - '0'.toNat)
    if next ≤ limit then appendDigits limit next rest else (n, c :: rest)

def largestSignificand : Nat := (1 <<< 64) - 1

def largestExponent : Nat := (1 <<< 31) - 1

/-- The largest power of ten by which a double can be scaled in one step. -/
def largestPower : Nat := 308

/-- `significand * 10 ^ exponent`, every step going to the nearest double, unless one is too large.
Far below one it takes two divisions, after which nothing is left but zero. -/
def scale? (significand : Nat) (exponent : Int) : Option Binary64 := do
  let x ← Binary64.ofNat? significand
  let power? (n : Int) := Binary64.ofNat? (Nat.pow 10 n.toNat)
  if significand = 0 then return x
  else if largestPower < exponent then none
  else if 0 ≤ exponent then x.mul? (← power? exponent)
  else if -largestPower ≤ exponent then x.div? (← power? (-exponent))
  else if -(2 * largestPower) ≤ exponent then
    (← x.div? (← power? largestPower)).div? (← power? (-exponent - largestPower))
  else return .zero

namespace Numeral

/-- The digits that fit into the significand, and the power of ten to scale them by when no
exponent is written. A digit of the whole part that does not fit still counts for its place, one of
the fraction is dropped with all that follow. -/
def significand (numeral : Numeral) : Nat × Int :=
  let (whole, dropped) := appendDigits largestSignificand 0 numeral.whole
  let fraction := numeral.fraction.getD []
  let (significand, unused) := appendDigits largestSignificand whole fraction
  (significand, dropped.length - (fraction.length - unused.length))

def isInteger (numeral : Numeral) : Bool :=
  numeral.fraction.isNone && numeral.exponent.isNone

/-- The written exponent, if it is not beyond all bounds, and otherwise the digits after the one
that takes it there. -/
def writtenExponent (numeral : Numeral) : Except (List Char) Int :=
  match numeral.exponent with
  | none => .ok 0
  | some (negative, digits) =>
    match appendDigits largestExponent 0 digits with
    | (n, []) => .ok (if negative then -n else n)
    | (_, _ :: rest) => .error rest

/-- An exponent beyond all bounds leaves zero, unless it is positive and there is something to
scale. -/
def double (numeral : Numeral) : Except Overflow Binary64 :=
  let (significand, exponent) := numeral.significand
  match numeral.writtenExponent with
  | .ok written =>
    match scale? significand (exponent + written) with
    | some x => .ok x
    | none => .error ⟨0⟩
  | .error rest =>
    if significand ≠ 0 ∧ numeral.exponent.any (!·.1) then .error ⟨rest.length⟩ else .ok .zero

/-- Without a fraction and an exponent, `0` to `2 ^ 64 - 1` and `-2 ^ 63` to `-1` are integers. -/
def number (numeral : Numeral) : Except Overflow Number :=
  let n := Text.valueOf 10 numeral.whole
  if numeral.isInteger ∧ !numeral.negative ∧ n ≤ largestSignificand then
    .ok (.integer n)
  else if numeral.isInteger ∧ numeral.negative ∧ 0 < n ∧ n ≤ 1 <<< 63 then
    .ok (.integer (-n))
  else
    return .double numeral.negative (← numeral.double)

end Numeral
end PeriphMap.Json
