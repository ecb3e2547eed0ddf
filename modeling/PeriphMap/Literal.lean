import PeriphMap.Text.Basic

/-! Number literals. Device lists write a base as a lower-case mark (`0x40`, `0b11`), the generated
table as a radix around the digits (`16#40#`, `2#11#`). The digits carry over unchanged, so the
value is the same on both sides. -/

namespace PeriphMap

inductive Base where
  | hexadecimal
  | binary
deriving DecidableEq

namespace Base

def radix : Base → Nat
  | hexadecimal => 16
  | binary => 2

/-- What the digits of a literal follow in a device list. -/
def mark : Base → List Char
  | hexadecimal => ['0', 'x']
  | binary => ['0', 'b']

def isDigit (base : Base) (c : Char) : Bool :=
  (Text.digit? base.radix c).isSome

/-- Digits of the base, with single underscores allowed between two of them. -/
def isNumeral (base : Base) : List Char → Bool
  | [] => false
  | [c] => base.isDigit c
  | c :: '_' :: rest => base.isDigit c && base.isNumeral rest
  | c :: rest => base.isDigit c && base.isNumeral rest

/-- The number that a numeral of the base denotes. -/
def valueOf (base : Base) (digits : List Char) : Nat :=
  Text.valueOf base.radix digits

end Base

namespace Literal

inductive Fault where
  /-- Neither `0` nor a numeral behind the mark of the base. -/
  | malformed
  | tooWide
deriving DecidableEq

/-- No literal is wider than this, whatever the destination holds. -/
def widest : Nat := 64

/-- The digits of a literal with the mark of `base`. -/
def digits? (base : Base) (text : String) : Option (List Char) :=
  if base.mark.isPrefixOf text.toList then some (text.toList.drop base.mark.length) else none

/-- The literal as the generated table writes it, if it fits in `bits` bits. A plain `0` needs no
mark. -/
def forTable (text : String) (base : Base) (bits : Nat) : Except Fault String :=
  if text = "0" then .ok "0" else
  match digits? base text with
  | none => .error .malformed
  | some digits =>
    if !base.isNumeral digits then .error .malformed
    else if 1 <<< min bits widest ≤ base.valueOf digits then .error .tooWide
    else .ok (toString base.radix ++ "#" ++ String.ofList digits ++ "#")

end Literal
end PeriphMap
