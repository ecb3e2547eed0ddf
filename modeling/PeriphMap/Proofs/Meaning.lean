import PeriphMap.Proofs.Evaluation
import PeriphMap.Proofs.Reading

/-! What a document says, with its numbers evaluated. It says of each block what the device list
says of it, and nothing else. -/

namespace PeriphMap

/-- What a row of the array says. -/
structure Reading.Row where
  choice : String
  name : String
  address : Nat
  size : Nat
  subregions : Nat
  interrupts : List (Option Nat)
  readOnly : Bool

/-- What the generated part of a document says. -/
structure Reading where
  enumeration : List String
  rows : List Reading.Row

namespace Reading

def row? (entry : Entry) : Option Row := do
  let address ← literal? entry.address
  let size ← literal? entry.size
  let subregions ← literal? entry.subregions
  let interrupts ← entry.interrupts.toList.mapM slot?
  return {
    choice := entry.identifier
    name := entry.paddedName
    address
    size
    subregions
    interrupts
    readOnly := entry.readOnly }

def ofDocument? (document : String) : Option Reading := do
  let code ← Listing.body? document
  let listing ← Listing.ofCode? code
  let rows ← listing.entries.mapM row?
  return { enumeration := listing.values, rows }

/-! ## Rows -/

/-- The literal of a record's field, in the notation of the device list, denotes `value`. -/
def FieldDenotes (record : Record) (field : NumberField) (value : Nat) : Prop :=
  ∃ text, field.text? record = some text ∧ Literal.Denotes field.base text value ∧
    value < 2 ^ field.bits

/-- The interrupts of a record stand for the numbers in the first slots, and there are no others. -/
def SlotsDenote (record : Record) (interrupts : List (Option Nat)) : Prop :=
  ∃ numbers, List.Forall₂ Interrupt.Denotes (record.interrupts.getD []) numbers ∧
    (∀ n ∈ numbers, n < Interrupt.limit) ∧ numbers.length ≤ Interrupt.slotCount ∧
    interrupts =
      numbers.map some ++ List.replicate (Interrupt.slotCount - numbers.length) none

/-- The row says what the record says. -/
structure Row.Describes (row : Row) (record : Record) : Prop where
  choice : Identifier.ofName record.name = .ok row.choice
  name : row.name.toList = row.choice.toList.take nameWidth ++
    List.replicate (nameWidth - row.choice.length) ' '
  address : FieldDenotes record .address row.address
  size : FieldDenotes record .size row.size
  subregions : FieldDenotes record .subregionMask row.subregions
  interrupts : SlotsDenote record row.interrupts
  readOnly : record.readOnly = some row.readOnly

variable {config : Config} {record : Record} {entry : Entry} {field : NumberField} {text : String}

theorem literal?_of_literalOf (h : Entry.literalOf record field = .ok text) :
    ∃ value, literal? text = some value ∧ FieldDenotes record field value := by
  obtain ⟨given, hgiven, htable⟩ := Entry.literalOf_eq_ok_iff.mp h
  obtain ⟨value, hvalue, hdenotes, hfits⟩ :=
    literal?_of_forTable (by cases field <;> decide) htable
  exact ⟨value, hvalue, given, hgiven, hdenotes, hfits⟩

theorem mapM_slot?_of_slotsOf {slotTexts : Vector String Interrupt.slotCount}
    (h : Entry.slotsOf record = .ok slotTexts) :
    ∃ interrupts, slotTexts.toList.mapM slot? = some interrupts ∧
      SlotsDenote record interrupts := by
  obtain ⟨hlength, numbers, hnumbers, rfl⟩ :=
    Interrupt.slots_eq_ok_iff.mp (Entry.slotsOf_eq_ok_iff.mp h)
  rw [hnumbers.length_eq] at hlength
  refine ⟨_, mapM_slot?_row hlength, numbers, hnumbers.imp fun _ _ h => h.1, ?_, hlength, rfl⟩
  intro n hn
  obtain ⟨value, -, -, hlimit⟩ := exists_of_mem_right hnumbers hn
  exact hlimit

/-- Each field of an entry says what the record said in its own notation. -/
theorem exists_row (h : Entry.Renders config record entry) :
    ∃ row, row? entry = some row ∧ row.Describes record := by
  obtain ⟨address, haddress, hgiven⟩ := literal?_of_literalOf h.address
  obtain ⟨size, hsize, hgiven'⟩ := literal?_of_literalOf h.size
  obtain ⟨subregions, hsubregions, hgiven''⟩ := literal?_of_literalOf h.subregions
  obtain ⟨interrupts, hslots, hnumbers⟩ := mapM_slot?_of_slotsOf h.interrupts
  refine ⟨⟨entry.identifier, entry.paddedName, address, size, subregions, interrupts,
    entry.readOnly⟩, ?_, ?_⟩
  · simp only [row?, haddress, hsize, hsubregions, hslots, Option.bind_eq_bind, Option.bind_some,
      Option.pure_def]
  · exact ⟨h.identifier, h.wellFormed.paddedName, hgiven, hgiven', hgiven'', hnumbers,
      Entry.readOnlyOf_eq_ok_iff.mp h.readOnly⟩

theorem choice_of_row? {row : Row} (h : row? entry = some row) : row.choice = entry.identifier := by
  simp only [row?, Option.bind_eq_bind, Option.bind_eq_some_iff, Option.pure_def,
    Option.some.injEq] at h
  obtain ⟨_, -, _, -, _, -, _, -, rfl⟩ := h
  rfl

theorem map_choice_eq {entries : List Entry} {rows : List Row}
    (h : List.Forall₂ (fun entry row => row? entry = some row) entries rows) :
    rows.map (·.choice) = entries.map (·.identifier) := by
  induction h with
  | nil => rfl
  | cons hrow _ ih => rw [List.map_cons, List.map_cons, choice_of_row? hrow, ih]

/-! ## Documents -/

variable {devices : List Device} {document : String}

/-- A document says of the blocks of its device list, in their order, what the list says. -/
theorem document_describes_blocks (h : (Document.ofDevices config devices).result = .ok document) :
    ∃ reading, ofDocument? document = some reading ∧
      reading.enumeration = Identifier.noPeripheral :: reading.rows.map (·.choice) ∧
      List.Forall₂ (fun record row => row.Describes record) (Device.blocks devices)
        reading.rows := by
  obtain ⟨table, htable, rfl⟩ := Document.ofDevices_result_eq_ok_iff.mp h
  have hlisting := Listing.ofCode?_code (Table.legible_of_ofDevices htable)
  obtain ⟨rows, hrows, hdescribes⟩ := exists_forall₂ (Table.ofDevices_eq_ok_iff.mp htable).1
    fun record entry hentry => exists_row (Entry.ofRecord_result_eq_ok_iff.mp hentry)
  refine ⟨⟨Identifier.noPeripheral :: table.identifiers, rows⟩, ?_, ?_, hdescribes⟩
  · simp only [ofDocument?, Listing.body?_ofTable, hlisting, mapM_eq_some_iff.mpr hrows,
      Option.bind_eq_bind, Option.bind_some, Option.pure_def]
  · exact congrArg (Identifier.noPeripheral :: ·) (map_choice_eq hrows).symm

theorem document_describes_blocks_serialPort :
    ∃ document, (Document.ofDevices {}
        [.skipped "clock" none, .block (.serialPort "usart-1")]).result = .ok document ∧
      ∃ row, ofDocument? document = some ⟨["NO_PERIPH", "USART_1"], [row]⟩ ∧
        row.Describes (.serialPort "usart-1") := by
  have htable : (Table.ofDevices {}
      [.skipped "clock" none, .block (.serialPort "usart-1")]).result =
        .ok ⟨[.serialPort "USART_1"]⟩ := rfl
  have hdocument := Document.ofDevices_result_eq_ok_iff.mpr ⟨_, htable, rfl⟩
  obtain ⟨⟨enumeration, rows⟩, hread, henumeration, hrows⟩ := document_describes_blocks hdocument
  obtain ⟨row, rest, hrow, hrest, rfl⟩ := List.forall₂_cons_left_iff.mp hrows
  obtain rfl := List.forall₂_nil_left_iff.mp hrest
  have hchoice : Except.ok "USART_1" = Except.ok row.choice :=
    (rfl : Except.ok "USART_1" = Identifier.ofName "usart-1").trans hrow.choice
  obtain rfl : enumeration = [Identifier.noPeripheral, row.choice] := henumeration
  rw [← Except.ok.inj hchoice] at hread
  exact ⟨_, hdocument, row, hread, hrow⟩

end Reading
end PeriphMap
