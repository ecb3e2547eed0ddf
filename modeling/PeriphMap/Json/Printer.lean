import PeriphMap.Json.Value
import PeriphMap.Numeric.Shortest

/-! The compact text of a JSON value: no blanks, and no escapes beyond those that JSON requires. -/

namespace PeriphMap.Json

open Numeric

def hexDigits (width n : Nat) : List Char :=
  (Nat.toDigits 16 n).leftpad width '0'

/-- Characters below the space have to be escaped; some of them have a letter for it. -/
def escape (c : Char) : List Char :=
  if c = '"' ∨ c = '\\' then ['\\', c]
  else if c = '\x08' then ['\\', 'b']
  else if c = '\x0c' then ['\\', 'f']
  else if c = '\n' then ['\\', 'n']
  else if c = '\r' then ['\\', 'r']
  else if c = '\t' then ['\\', 't']
  else if c.toNat < 0x20 then '\\' :: 'u' :: hexDigits 4 c.toNat
  else [c]

def quoted (s : String) : String :=
  String.ofList ('"' :: (s.toList.flatMap escape ++ ['"']))

/-- Digits with a point and at least one digit on each side of it, the first digit of `digits`
having the exponent `magnitude`. -/
def positional (digits : List Char) (magnitude : Int) : List Char :=
  if magnitude < 0 then
    '0' :: '.' :: (List.replicate (-magnitude - 1).toNat '0' ++ digits)
  else
    let whole := magnitude.toNat + 1
    digits.take whole ++ List.replicate (whole - digits.length) '0' ++
      '.' :: (if digits.length ≤ whole then ['0'] else digits.drop whole)

/-- One digit, the others behind a point, and the exponent always with its sign. -/
def scientific (digits : List Char) (magnitude : Int) : List Char :=
  let sign := if magnitude < 0 then '-' else '+'
  let fraction := if digits.length ≤ 1 then [] else '.' :: digits.drop 1
  digits.take 1 ++ fraction ++ 'e' :: sign :: Nat.toDigits 10 magnitude.natAbs

/-- The shortest decimal that reads back, positional from `10 ^ -5` up to `10 ^ 16`. -/
def doubleText (x : Binary64) : List Char :=
  if x = .zero then ['0', '.', '0'] else
  let digits := x.shortest.significantDigits
  let magnitude := x.shortest.magnitude
  if -5 ≤ magnitude ∧ magnitude < 16 then positional digits magnitude
  else scientific digits magnitude

def Number.text : Number → String
  | integer n => toString n
  | double negative x => String.ofList (if negative then '-' :: doubleText x else doubleText x)

mutual

def Value.text : Value → String
  | .null => "null"
  | .bool b => if b then "true" else "false"
  | .number n => n.text
  | .string s => quoted s
  | .array items => "[" ++ ",".intercalate (itemTexts items) ++ "]"
  | .object members => "\x7b" ++ ",".intercalate (memberTexts members) ++ "\x7d"

def itemTexts : List Value → List String
  | [] => []
  | value :: rest => value.text :: itemTexts rest

def memberTexts : List (String × Value) → List String
  | [] => []
  | (key, value) :: rest => (quoted key ++ ":" ++ value.text) :: memberTexts rest

end

end PeriphMap.Json
