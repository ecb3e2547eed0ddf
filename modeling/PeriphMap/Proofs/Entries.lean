import PeriphMap.Device
import PeriphMap.Entry
import PeriphMap.Proofs.Columns
import PeriphMap.Proofs.Identifiers
import PeriphMap.Proofs.Interrupts
import PeriphMap.Proofs.Literals

/-! Entries and the records that they are made from. A record has at most one entry, and every entry
is well formed, whatever the record says. -/

namespace PeriphMap
namespace Entry

variable {config : Config} {record : Record} {entry : Entry} {identifier text : String}
  {field : NumberField}

/-! ## Records and their entries -/

/-- What it takes for `entry` to be the entry of `record`. -/
structure Renders (config : Config) (record : Record) (entry : Entry) : Prop where
  identifier : Identifier.ofName record.name = .ok entry.identifier
  width : config.strictNames → entry.identifier.utf8ByteSize ≤ nameWidth
  paddedName : entry.paddedName = Text.fit entry.identifier nameWidth
  address : literalOf record .address = .ok entry.address
  size : literalOf record .size = .ok entry.size
  subregions : literalOf record .subregionMask = .ok entry.subregions
  interrupts : slotsOf record = .ok entry.interrupts
  readOnly : readOnlyOf record = .ok entry.readOnly

theorem checkWidth_result_eq_ok_iff : (checkWidth config identifier).result = .ok () ↔
    (config.strictNames → identifier.utf8ByteSize ≤ nameWidth) := by
  unfold checkWidth
  split
  next hfits => simp [hfits]
  next hwide =>
    split
    next hstrict => simp [hstrict, hwide]
    next hlenient => simp [hlenient]

theorem withIdentifier_eq_ok_iff : withIdentifier identifier record = .ok entry ↔
    identifier = entry.identifier ∧ entry.paddedName = Text.fit entry.identifier nameWidth ∧
      literalOf record .address = .ok entry.address ∧ literalOf record .size = .ok entry.size ∧
      literalOf record .subregionMask = .ok entry.subregions ∧
      slotsOf record = .ok entry.interrupts ∧ readOnlyOf record = .ok entry.readOnly := by
  simp only [withIdentifier, bind_eq_ok_iff]
  constructor
  · intro h
    obtain ⟨_, haddress, _, hsize, _, hsubregions, _, hinterrupts, _, hreadOnly, ⟨⟩⟩ := h
    exact ⟨rfl, rfl, haddress, hsize, hsubregions, hinterrupts, hreadOnly⟩
  · intro h
    obtain ⟨rfl, hpadded, haddress, hsize, hsubregions, hinterrupts, hreadOnly⟩ := h
    exact ⟨_, haddress, _, hsize, _, hsubregions, _, hinterrupts, _, hreadOnly,
      congrArg Except.ok (by rw [← hpadded])⟩

theorem ofRecord_result_eq_ok_iff :
    (ofRecord config record).result = .ok entry ↔ Renders config record entry := by
  simp only [ofRecord, identifierOf, Run.bind_result_eq_ok_iff, Run.ofExcept_result,
    mapError_eq_ok_iff, withIdentifier_eq_ok_iff]
  constructor
  · intro h
    obtain ⟨_, hname, ⟨⟩, hwidth, rfl, hpadded, haddress, hsize, hsubregions, hinterrupts,
      hreadOnly⟩ := h
    exact ⟨hname, checkWidth_result_eq_ok_iff.mp hwidth, hpadded, haddress, hsize, hsubregions,
      hinterrupts, hreadOnly⟩
  · intro h
    obtain ⟨hname, hwidth, hpadded, haddress, hsize, hsubregions, hinterrupts, hreadOnly⟩ := h
    exact ⟨_, hname, (), checkWidth_result_eq_ok_iff.mpr hwidth, rfl, hpadded, haddress, hsize,
      hsubregions, hinterrupts, hreadOnly⟩

theorem literalOf_eq_ok_iff : literalOf record field = .ok text ↔
    ∃ given, field.text? record = some given ∧
      Literal.forTable given field.base field.bits = .ok text := by
  unfold literalOf
  split
  next hnone => simp [hnone]
  next given hsome => simp [hsome, mapError_eq_ok_iff]

theorem slotsOf_eq_ok_iff {slots : Vector String Interrupt.slotCount} :
    slotsOf record = .ok slots ↔ Interrupt.slots (record.interrupts.getD []) = .ok slots :=
  mapError_eq_ok_iff

theorem readOnlyOf_eq_ok_iff {flag : Bool} :
    readOnlyOf record = .ok flag ↔ record.readOnly = some flag := by
  unfold readOnlyOf
  split <;> simp_all

/-! ## The form of an entry -/

/-- What holds of every entry of a table. -/
structure WellFormed (config : Config) (entry : Entry) : Prop where
  identifier : Identifier.Valid entry.identifier
  width : config.strictNames → entry.identifier.length ≤ nameWidth
  paddedName : entry.paddedName.toList = entry.identifier.toList.take nameWidth ++
    List.replicate (nameWidth - entry.identifier.length) ' '
  paddedLength : entry.paddedName.length = nameWidth
  paddedBytes : entry.paddedName.utf8ByteSize = nameWidth
  address : Literal.WellFormed .hexadecimal 32 entry.address
  size : Literal.WellFormed .hexadecimal 32 entry.size
  subregions : Literal.WellFormed .binary 8 entry.subregions
  interrupts : Interrupt.WellFormed entry.interrupts

theorem Renders.valid (h : Renders config record entry) : Identifier.Valid entry.identifier :=
  (Identifier.ofName_eq_ok_iff.mp h.identifier).2

theorem wellFormed_of_literalOf (h : literalOf record field = .ok text) :
    Literal.WellFormed field.base field.bits text := by
  obtain ⟨given, -, hgiven⟩ := literalOf_eq_ok_iff.mp h
  exact Literal.wellFormed_of_forTable hgiven (by cases field <;> decide)

theorem Renders.wellFormed (h : Renders config record entry) : WellFormed config entry where
  identifier := h.valid
  width hstrict := h.valid.wellFormed.utf8ByteSize_eq ▸ h.width hstrict
  paddedName := Text.eq_fit_iff.mp h.paddedName
  paddedLength := by rw [h.paddedName, Text.length_fit]
  paddedBytes := by
    rw [Text.utf8ByteSize_eq_length, h.paddedName, Text.length_fit]
    intro c hc
    rw [h.paddedName] at hc
    rcases Text.mem_fit hc with hc | rfl
    · have := h.valid.wellFormed.toNat_bounds c hc
      omega
    · decide
  address := wellFormed_of_literalOf h.address
  size := wellFormed_of_literalOf h.size
  subregions := wellFormed_of_literalOf h.subregions
  interrupts := Interrupt.wellFormed_of_slots (slotsOf_eq_ok_iff.mp h.interrupts)

end Entry

/-! ## A serial port -/

/-- A block with literals and interrupts of several forms. -/
def Record.serialPort (name : String) : Record where
  name := name
  address := some "0x4001_1000"
  size := some "0x0400"
  subregionMask := some "0b1100_0000"
  readOnly := some false
  interrupts := some [.number (.integer 53), .string "007"]

/-- The entry of the block under an identifier. -/
def Entry.serialPort (identifier : String) : Entry where
  identifier := identifier
  paddedName := Text.fit identifier nameWidth
  address := "16#4001_1000#"
  size := "16#0400#"
  subregions := "2#1100_0000#"
  interrupts := #v["t_interrupt'val(53)", "t_interrupt'val(7)", "INT_NONE", "INT_NONE"]
  readOnly := false

/-- The block under several names. -/
def Device.serialPorts (names : List String) : List Device :=
  names.map fun name => .block (.serialPort name)

/-- The block has its entry under every name that gives an identifier. -/
theorem Entry.ofRecord_serialPort {name identifier : String}
    (h : Identifier.ofName name = .ok identifier) :
    (ofRecord {} (.serialPort name)).result = .ok (.serialPort identifier) :=
  ofRecord_result_eq_ok_iff.mpr {
    identifier := h
    width := nofun
    paddedName := rfl
    address := rfl
    size := rfl
    subregions := rfl
    interrupts := rfl
    readOnly := rfl }

example : (Entry.ofRecord {} (.serialPort "usart-1")).result = .ok (.serialPort "USART_1") := rfl

end PeriphMap
