import PeriphMap.Json.Parser
import PeriphMap.Record

/-! Device lists. Only register blocks are read past their type, so nothing that another device says
of itself can be wrong. -/

namespace PeriphMap

/-- One entry of a device list. -/
inductive Device where
  | block (record : Record)
  /-- Of every other device only what is needed to say that it was skipped. -/
  | skipped (kind : String) (name : Option String)

namespace Device

/-- The type of the devices that get an entry in the table. -/
def blockKind : String := "block"

def record? : Device → Option Record
  | block record => some record
  | skipped _ _ => none

/-- The records of the blocks, in the order of the list. -/
def blocks (devices : List Device) : List Record :=
  devices.filterMap record?

/-- The entries at some positions, in the order in which these are given. Positions outside the list
are passed over. -/
def pick (devices : List Device) (positions : List Nat) : List Device :=
  positions.filterMap (devices[·]?)

/-- Why a text is not a device list. Entries are counted from zero. -/
inductive Fault where
  | notJson (error : Json.ParseError)
  | notAnArray
  | notAnObject (index : Nat)
  | untyped (index : Nat)
  | mismatch (index : Nat) (mismatch : Record.Mismatch)

def Fault.message : Fault → String
  | notJson error => error.message
  | notAnArray => "top-level value is not an array"
  | notAnObject index => "entry " ++ toString index ++ " is not an object"
  | untyped index => "entry " ++ toString index ++ " has no string `type`"
  | mismatch index m => "entry " ++ toString index ++ ": " ++ m.message

/-- The entry at `index` of a device list. -/
def ofEntry (index : Nat) : Json.Value → Except Fault Device
  | .object members =>
    match (members.lookup "type").bind (·.string?) with
    | none => .error (.untyped index)
    | some kind =>
      if kind = blockKind then
        match Record.ofMembers members with
        | .ok record => .ok (block record)
        | .error m => .error (.mismatch index m)
      else .ok (skipped kind ((members.lookup "name").bind (·.string?)))
  | _ => .error (.notAnObject index)

def listOfJson : Json.Value → Except Fault (List Device)
  | .array entries => entries.zipIdx.mapM fun (entry, index) => ofEntry index entry
  | _ => .error .notAnArray

def listOfText (text : String) : Except Fault (List Device) :=
  match Json.parse text with
  | .ok value => listOfJson value
  | .error error => .error (.notJson error)

end Device
end PeriphMap
