import PeriphMap.Run
import PeriphMap.Text.Basic

/-! Entries of the device table, and how they are made from the records of the blocks. -/

namespace PeriphMap

/-- A register block with every field as the table shows it. -/
structure Entry where
  identifier : String
  /-- The identifier cut or filled up to the width of the name column. -/
  paddedName : String
  address : String
  size : String
  subregions : String
  interrupts : Vector String Interrupt.slotCount
  readOnly : Bool

namespace Entry

def identifierOf (record : Record) : Run String :=
  .ofExcept .invalidIdentifier (Identifier.ofName record.name)

/-- An identifier that does not fit the name column is cut there, which is reported, or refused. -/
def checkWidth (config : Config) (identifier : String) : Run Unit :=
  if identifier.utf8ByteSize ≤ nameWidth then pure ()
  else if config.strictNames then .fail (.identifierTooLong identifier)
  else .report (.nameCut identifier)

def literalOf (record : Record) (field : NumberField) : Except Error String :=
  match field.text? record with
  | none => .error (.missingField record.name (.number field))
  | some text =>
    (Literal.forTable text field.base field.bits).mapError (.literal record.name field text)

def slotsOf (record : Record) : Except Error (Vector String Interrupt.slotCount) :=
  (Interrupt.slots (record.interrupts.getD [])).mapError (.interrupts record.name)

def readOnlyOf (record : Record) : Except Error Bool :=
  match record.readOnly with
  | none => .error (.missingField record.name .readOnly)
  | some readOnly => .ok readOnly

/-- The entry of a block under an identifier. The fields are checked in the order in which the
table shows them. -/
def withIdentifier (identifier : String) (record : Record) : Except Error Entry := do
  let address ← literalOf record .address
  let size ← literalOf record .size
  let subregions ← literalOf record .subregionMask
  let interrupts ← slotsOf record
  let readOnly ← readOnlyOf record
  return {
    identifier
    paddedName := Text.fit identifier nameWidth
    address
    size
    subregions
    interrupts
    readOnly }

def ofRecord (config : Config) (record : Record) : Run Entry := do
  let identifier ← identifierOf record
  checkWidth config identifier
  .ofExcept id (withIdentifier identifier record)

end Entry
end PeriphMap
