import PeriphMap.Json.Printer
import PeriphMap.Text.Basic

/-! Descriptions of register blocks, and how they are read from JSON values. Only the name is needed
to read one. That the other fields are there, and make sense, is checked when the block is
encoded. -/

namespace PeriphMap

/-- A register block as the device list describes it. -/
structure Record where
  name : String
  address : Option String
  size : Option String
  subregionMask : Option String
  readOnly : Option Bool
  /-- The values given for the interrupts, not looked at yet. -/
  interrupts : Option (List Json.Value)

namespace Record

/-- The things that are read from a value in one piece. -/
inductive Kind where
  | text
  | flag
  | list
  | interrupt
  | record
deriving DecidableEq

def Kind.description : Kind → String
  | text => "a string"
  | flag => "a boolean"
  | list => "a sequence"
  | interrupt => "struct IrqRecord"
  | record => "struct DeviceRecord"

/-- The number of elements when a thing is written as an array. -/
def Kind.arity : Kind → Nat
  | interrupt => 1
  | _ => 6

/-- Why a value does not describe a block. -/
inductive Mismatch where
  | wrongType (found : Json.Value) (expected : Kind)
  | missingField (key : String)
  | tooShort (length : Nat) (expected : Kind)
  | tooLong (length : Nat)

def describe : Json.Value → String
  | .null => "null"
  | .bool b => "boolean `" ++ (if b then "true" else "false") ++ "`"
  | .number (.integer n) => "integer `" ++ toString n ++ "`"
  | .number n => "floating point `" ++ n.text ++ "`"
  | .string s => "string " ++ Text.quote s
  | .array _ => "sequence"
  | .object _ => "map"

def Mismatch.message : Mismatch → String
  | wrongType found expected =>
    "invalid type: " ++ describe found ++ ", expected " ++ expected.description
  | missingField key => "missing field `" ++ key ++ "`"
  | tooShort length expected =>
    "invalid length " ++ toString length ++ ", expected " ++ expected.description ++ " with " ++
      toString expected.arity ++ (if expected.arity = 1 then " element" else " elements")
  | tooLong length =>
    "invalid length " ++ toString length ++ ", expected fewer elements in array"

def readText : Json.Value → Except Mismatch String
  | .string s => .ok s
  | value => .error (.wrongType value .text)

def readFlag : Json.Value → Except Mismatch Bool
  | .bool b => .ok b
  | value => .error (.wrongType value .flag)

/-- An interrupt is described by an object with its value, or by an array of just the value. -/
def readInterrupt : Json.Value → Except Mismatch Json.Value
  | .object members =>
    match members.lookup "value" with
    | some value => .ok value
    | none => .error (.missingField "value")
  | .array [value] => .ok value
  | .array [] => .error (.tooShort 0 .interrupt)
  | .array values => .error (.tooLong values.length)
  | value => .error (.wrongType value .interrupt)

def readInterrupts : Json.Value → Except Mismatch (List Json.Value)
  | .array values => values.mapM readInterrupt
  | value => .error (.wrongType value .list)

/-- A null stands for a field that is not there. -/
def optional {α : Type} (read : Json.Value → Except Mismatch α) :
    Json.Value → Except Mismatch (Option α)
  | .null => .ok none
  | value => some <$> read value

/-- A record of which nothing is known. -/
def blank : Record where
  name := ""
  address := none
  size := none
  subregionMask := none
  readOnly := none
  interrupts := none

/-- Takes up one member of an object. Those that are no fields of a record are passed over. -/
def withMember (record : Record) : String × Json.Value → Except Mismatch Record
  | ("name", value) => return { record with name := ← readText value }
  | ("address", value) => return { record with address := ← optional readText value }
  | ("size", value) => return { record with size := ← optional readText value }
  | ("memory_subregion_mask", value) =>
    return { record with subregionMask := ← optional readText value }
  | ("read_only", value) => return { record with readOnly := ← optional readFlag value }
  | ("irqs", value) => return { record with interrupts := ← optional readInterrupts value }
  | _ => .ok record

/-- The first member of the wrong type is met before a missing name. -/
def ofMembers (members : List (String × Json.Value)) : Except Mismatch Record := do
  let record ← members.foldlM withMember blank
  if (members.lookup "name").isNone then .error (.missingField "name") else return record

/-- The fields of a record in the order in which an array lists them. -/
def fieldKeys : List String :=
  ["name", "address", "size", "memory_subregion_mask", "read_only", "irqs"]

/-- The first element of the wrong type is met before a wrong number of elements. -/
def ofElements (values : List Json.Value) : Except Mismatch Record := do
  let record ← (fieldKeys.zip values).foldlM withMember blank
  if values.length < fieldKeys.length then .error (.tooShort values.length .record)
  else if fieldKeys.length < values.length then .error (.tooLong values.length)
  else return record

def ofJson : Json.Value → Except Mismatch Record
  | .object members => ofMembers members
  | .array values => ofElements values
  | value => .error (.wrongType value .record)

end Record
end PeriphMap
