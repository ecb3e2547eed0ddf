import PeriphMap.Json.Value
import PeriphMap.Text.Basic

/-! Interrupt numbers and the fixed row of slots that holds them. -/

namespace PeriphMap.Interrupt

/-- The number of slots in a row. -/
def slotCount : Nat := 4

/-- What an unused slot holds. -/
def noInterrupt : String := "INT_NONE"

/-- No interrupt number reaches this. -/
def limit : Nat := 1 <<< 32

inductive Fault where
  | tooMany (count : Nat)
  | notANumber (value : Json.Value)

/-- An interrupt is given as an integer or as its decimal digits. -/
def number? : Json.Value → Option Nat
  | .number (.integer n) => if 0 ≤ n ∧ n < limit then some n.toNat else none
  | .string s =>
    if s.toList ≠ [] ∧ s.toList.all Char.isDigit ∧ Text.valueOf 10 s.toList < limit then
      some (Text.valueOf 10 s.toList)
    else none
  | _ => none

def number (value : Json.Value) : Except Fault Nat :=
  match number? value with
  | some n => .ok n
  | none => .error (.notANumber value)

/-- How a slot names interrupt number `n`. -/
def reference (n : Nat) : String :=
  "t_interrupt'val(" ++ toString n ++ ")"

/-- The slots of `numbers` in order, the rest of the row being unused. -/
def row (numbers : List Nat) : Vector String slotCount :=
  .ofFn fun slot => (numbers[slot.val]?.map reference).getD noInterrupt

def slots (values : List Json.Value) : Except Fault (Vector String slotCount) :=
  if slotCount < values.length then .error (.tooMany values.length)
  else row <$> values.mapM number

end PeriphMap.Interrupt
