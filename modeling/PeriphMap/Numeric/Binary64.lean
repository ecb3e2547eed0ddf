/-! The finite double-precision numbers that are not negative, with operations that give the double
nearest to the exact result. Every such number is a whole multiple of the least positive one,
`2 ^ -1074`, so all arithmetic is on natural numbers. -/

namespace PeriphMap.Numeric

/-- The quotient to the nearest natural number, a half going to the even neighbour. -/
def roundHalfEven (numerator denominator : Nat) : Nat :=
  let quotient := numerator / denominator
  let twice := 2 * (numerator % denominator)
  if denominator < twice ∨ (twice = denominator ∧ quotient % 2 = 1) then quotient + 1 else quotient

/-- How many doubles a binade has, all equally far apart. -/
def binade : Nat := 1 <<< 52

/-- A double is given by its rank: how many doubles lie below it and not below zero. The ranks of
one binade are consecutive numbers, and an even rank means an even significand. -/
structure Binary64 where
  rank : Nat
  rank_lt : rank < 2047 * binade := by decide
deriving DecidableEq

namespace Binary64

/-- The multiple of `2 ^ -1074` at a rank. In the first two binades the ranks are the multiples
themselves; from there on each binade doubles the distance between neighbours. -/
def unitsAt (rank : Nat) : Nat :=
  if rank < binade then rank else (binade + rank % binade) <<< (rank / binade - 1)

def units (x : Binary64) : Nat :=
  unitsAt x.rank

/-- How many units make one. -/
def one : Nat := 1 <<< 1074

def zero : Binary64 where
  rank := 0

/-- The double nearest to a quotient of units, unless it is too large for any. -/
def nearest? (numerator denominator : Nat) : Option Binary64 :=
  let shift := (numerator / denominator).log2 - 52
  let rank := shift * binade + roundHalfEven numerator (denominator <<< shift)
  if h : rank < 2047 * binade then some ⟨rank, h⟩ else none

def ofNat? (n : Nat) : Option Binary64 :=
  nearest? (n * one) 1

def mul? (x y : Binary64) : Option Binary64 :=
  nearest? (x.units * y.units) one

def div? (x y : Binary64) : Option Binary64 :=
  nearest? (x.units * one) y.units

end Binary64
end PeriphMap.Numeric
