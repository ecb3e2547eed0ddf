import PeriphMap.Text.Visible

/-! Texts: the digits in them, the columns they are set in, and the quotation marks they are shown
between. -/

namespace PeriphMap.Text

/-! ## Digits -/

/-- Digits of the bases up to sixteen, in ASCII and in either letter case. -/
def digit? (radix : Nat) (c : Char) : Option Nat :=
  let value? :=
    if '0' ≤ c ∧ c ≤ '9' then some (c.toNat - '0'.toNat)
    else if 'a' ≤ c ∧ c ≤ 'f' then some (c.toNat - 'a'.toNat + 10)
    else if 'A' ≤ c ∧ c ≤ 'F' then some (c.toNat - 'A'.toNat + 10)
    else none
  value?.filter (· < radix)

/-- The number that the digits among `text` denote, the most significant one first. Characters that
are no digits are passed over. -/
def valueOf (radix : Nat) (text : List Char) : Nat :=
  (text.filterMap (digit? radix)).foldl (fun value digit => value * radix + digit) 0

/-! ## Columns -/

/-- Fills `s` up with spaces on the right. A text that is already wider stays as it is. -/
def alignLeft (s : String) (width : Nat) : String :=
  String.ofList (s.toList.rightpad width ' ')

/-- The first `width` characters of `s`, filled up with spaces to exactly `width`. -/
def fit (s : String) (width : Nat) : String :=
  String.ofList ((s.toList.take width).rightpad width ' ')

/-! ## Quotation marks

Every character that would not be seen for what it is has an escape. -/

def escapeUnicode (c : Char) : List Char :=
  '\\' :: 'u' :: '\x7b' :: (Nat.toDigits 16 c.toNat ++ ['\x7d'])

/-- How `c` is shown when the quotation marks in `marks` have to be escaped. -/
def shown (marks : List Char) (c : Char) : List Char :=
  if c = '\x00' then ['\\', '0']
  else if c = '\t' then ['\\', 't']
  else if c = '\r' then ['\\', 'r']
  else if c = '\n' then ['\\', 'n']
  else if c = '\\' || marks.contains c then ['\\', c]
  else if isVisible c then [c]
  else escapeUnicode c

def quoteEscaping (marks : List Char) (s : String) : String :=
  String.ofList ('"' :: (s.toList.flatMap (shown marks) ++ ['"']))

def quote (s : String) : String :=
  quoteEscaping ['"'] s

/-- Paths are quoted with both kinds of quotation marks escaped. -/
def quotePath (s : String) : String :=
  quoteEscaping ['"', '\''] s

end PeriphMap.Text
