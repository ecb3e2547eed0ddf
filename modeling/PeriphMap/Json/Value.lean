import PeriphMap.Numeric.Binary64

/-! JSON values. Objects keep their members in the order in which their keys first appeared. -/

namespace PeriphMap.Json

open Numeric

/-- Whole numbers of up to 64 bits are exact. Every other number is a double, with a sign of its
own so that the two zeros differ. -/
inductive Number where
  | integer (n : Int)
  | double (negative : Bool) (magnitude : Binary64)
deriving DecidableEq

inductive Value where
  | null
  | bool (b : Bool)
  | number (n : Number)
  | string (s : String)
  | array (items : List Value)
  | object (members : List (String × Value))

/-- Adds a member to an object. A key that is already there keeps its place and takes the new
value. -/
def put (members : List (String × Value)) (key : String) (value : Value) :
    List (String × Value) :=
  match members with
  | [] => [(key, value)]
  | (k, v) :: rest => if k = key then (k, value) :: rest else (k, v) :: put rest key value

namespace Value

def string? : Value → Option String
  | string s => some s
  | _ => none

mutual

/-- Whether two values are the same, members in the same order. -/
def decideEq : (a b : Value) → Decidable (a = b)
  | .null, b =>
    match b with
    | .null => isTrue rfl
    | .bool _ | .number _ | .string _ | .array _ | .object _ => isFalse nofun
  | .bool a, b =>
    match b with
    | .bool b => decidable_of_iff (a = b) (bool.injEq a b).to_iff.symm
    | .null | .number _ | .string _ | .array _ | .object _ => isFalse nofun
  | .number a, b =>
    match b with
    | .number b => decidable_of_iff (a = b) (number.injEq a b).to_iff.symm
    | .null | .bool _ | .string _ | .array _ | .object _ => isFalse nofun
  | .string a, b =>
    match b with
    | .string b => decidable_of_iff (a = b) (string.injEq a b).to_iff.symm
    | .null | .bool _ | .number _ | .array _ | .object _ => isFalse nofun
  | .array a, b =>
    match b with
    | .array b =>
      have := decideItemsEq a b
      decidable_of_iff (a = b) (array.injEq a b).to_iff.symm
    | .null | .bool _ | .number _ | .string _ | .object _ => isFalse nofun
  | .object a, b =>
    match b with
    | .object b =>
      have := decideMembersEq a b
      decidable_of_iff (a = b) (object.injEq a b).to_iff.symm
    | .null | .bool _ | .number _ | .string _ | .array _ => isFalse nofun

def decideItemsEq : (as bs : List Value) → Decidable (as = bs)
  | [], [] => isTrue rfl
  | [], _ :: _ | _ :: _, [] => isFalse nofun
  | a :: as, b :: bs =>
    have := decideEq a b
    have := decideItemsEq as bs
    decidable_of_iff (a = b ∧ as = bs) (List.cons.injEq a as b bs).to_iff.symm

def decideMembersEq : (as bs : List (String × Value)) → Decidable (as = bs)
  | [], [] => isTrue rfl
  | [], _ :: _ | _ :: _, [] => isFalse nofun
  | (k, a) :: as, (l, b) :: bs =>
    have := decideEq a b
    have := decideMembersEq as bs
    decidable_of_iff ((k = l ∧ a = b) ∧ as = bs) (by simp)

end

instance : DecidableEq Value := decideEq

end Value
end PeriphMap.Json
