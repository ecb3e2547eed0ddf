import PeriphMap.Entry

/-! The device table: the entries of all blocks in the order of the device list, each with an
identifier of its own. -/

namespace PeriphMap

structure Table where
  entries : List Entry

namespace Table

def empty : Table := ⟨[]⟩

/-- The number of values of the enumeration, the one for no peripheral included. -/
def enumerationLength (table : Table) : Nat :=
  table.entries.length + 1

def identifiers (table : Table) : List String :=
  table.entries.map (·.identifier)

/-- The first entry with a name in its name column. -/
def named? (table : Table) (paddedName : String) : Option Entry :=
  table.entries.find? (·.paddedName = paddedName)

/-- Adds an entry at the end. It may share its name with earlier entries, which is reported, but not
its identifier. -/
def add (table : Table) (entry : Entry) : Run Table :=
  if entry.identifier ∈ table.identifiers then
    .fail (.duplicateIdentifier entry.identifier)
  else
    match table.named? entry.paddedName with
    | none => return ⟨table.entries ++ [entry]⟩
    | some first => do
      .report (.nameShared first.identifier entry.identifier entry.paddedName)
      return ⟨table.entries ++ [entry]⟩

def addDevice (config : Config) (table : Table) : Device → Run Table
  | .block record => do
    let entry ← Entry.ofRecord config record
    table.add entry
  | .skipped kind name => do
    .report (.skipped kind name)
    return table

/-- The table of a device list. The first device that cannot be added decides the error. -/
def ofDevices (config : Config) (devices : List Device) : Run Table :=
  devices.foldlM (addDevice config) empty

end Table
end PeriphMap
