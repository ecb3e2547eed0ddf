import PeriphMap.Text.Uppercase

/-! Ada identifiers made from device names. -/

namespace PeriphMap.Identifier

/-- Why a word cannot be an identifier of the table. -/
inductive Fault where
  | empty
  | firstCharacter
  | alphabet
  | consecutiveUnderscores
  | trailingUnderscore
  | reservedWord
  | sentinel
deriving DecidableEq

def Fault.reason : Fault → String
  | empty => "empty name"
  | firstCharacter => "must start with a letter"
  | alphabet => "only letters, digits and underscores are allowed"
  | consecutiveUnderscores => "consecutive underscores"
  | trailingUnderscore => "trailing underscore"
  | reservedWord => "reserved word"
  | sentinel => "reserved for the no-peripheral sentinel"

/-- The reason tells which rule was broken. -/
theorem Fault.reason_inj {fault other : Fault} : fault.reason = other.reason ↔ fault = other := by
  cases fault <;> cases other <;> simp [reason]

/-- The enumeration value for the absence of a peripheral. -/
def noPeripheral : String := "NO_PERIPH"

def reservedWords : List String := [
  "abort", "abs", "abstract", "accept", "access", "aliased", "all", "and", "array", "at",
  "begin", "body", "case", "constant", "declare", "delay", "delta", "digits", "do", "else",
  "elsif", "end", "entry", "exception", "exit", "for", "function", "generic", "goto", "if",
  "in", "interface", "is", "limited", "loop", "mod", "new", "not", "null", "of", "or",
  "others", "out", "overriding", "package", "pragma", "private", "procedure", "protected",
  "raise", "range", "record", "rem", "renames", "requeue", "return", "reverse", "select",
  "separate", "some", "subtype", "synchronized", "tagged", "task", "terminate", "then", "type",
  "until", "use", "when", "while", "with", "xor"]

/-- A device name in capitals, with underscores for hyphens. -/
def spelling (name : String) : String :=
  String.ofList ((Text.uppercase name).toList.map fun c => if c = '-' then '_' else c)

def lowercase (word : String) : String :=
  String.ofList (word.toList.map Char.toLower)

def hasConsecutiveUnderscores : List Char → Bool
  | '_' :: '_' :: _ => true
  | _ :: rest => hasConsecutiveUnderscores rest
  | [] => false

/-- The first rule that a word breaks. Letters and digits are those of ASCII. -/
def fault? (word : String) : Option Fault :=
  let cs := word.toList
  if cs.isEmpty then some .empty
  else if !cs.head?.all Char.isAlpha then some .firstCharacter
  else if !cs.all fun c => c.isAlphanum || c == '_' then some .alphabet
  else if hasConsecutiveUnderscores cs then some .consecutiveUnderscores
  else if cs.getLast? = some '_' then some .trailingUnderscore
  else if lowercase word ∈ reservedWords then some .reservedWord
  else if word = noPeripheral then some .sentinel
  else none

/-- A word that cannot be an identifier, with the first rule that it breaks. -/
structure Invalid where
  word : String
  fault : Fault
deriving DecidableEq

def ofName (name : String) : Except Invalid String :=
  match fault? (spelling name) with
  | none => .ok (spelling name)
  | some fault => .error ⟨spelling name, fault⟩

end PeriphMap.Identifier
