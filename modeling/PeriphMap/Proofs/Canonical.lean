import PeriphMap.Proofs.Evaluation
import PeriphMap.Proofs.Reading

/-! Records in the form in which the table would have them. What an entry shows is put back into the
notation of device lists, and the record that comes of it has that entry again, so it may take the
place of the record that the entry was made from. -/

namespace PeriphMap

/-! ## Identifiers -/

theorem Text.uppercase_eq_self {s : String} (hascii : ∀ c ∈ s.toList, c.toNat < 128)
    (hcaps : ∀ c ∈ s.toList, c.isLower = false) : uppercase s = s := by
  have hcapitals : ∀ c ∈ s.toList, capitals c = [c] := by
    intro c hc
    rw [capitals, if_pos (hascii c hc), Char.toUpper_eq_of_not_isLower (by simp [hcaps c hc])]
  rw [uppercase, List.flatMap_congr hcapitals, List.flatMap_singleton', String.ofList_toList]

namespace Identifier

variable {word : String}

/-- There are no small letters and no hyphens to replace. -/
theorem spelling_eq_self (h : WellFormed word) : spelling word = word := by
  have hbounds := h.toNat_bounds
  have hupper : Text.uppercase word = word :=
    Text.uppercase_eq_self (fun c hc => by have := hbounds c hc; omega) h.isLower_of_mem
  have hhyphen : ∀ c ∈ word.toList, (if c = '-' then '_' else c) = c := by
    intro c hc
    apply if_neg
    rintro rfl
    exact absurd (hbounds '-' hc).1 (by decide)
  rw [spelling, hupper, List.map_congr_left hhyphen, List.map_id', String.ofList_toList]

theorem ofName_self (h : Valid word) : ofName word = .ok word :=
  ofName_eq_ok_iff.mpr ⟨spelling_eq_self h.wellFormed, h⟩

end Identifier

/-! ## Literals -/

namespace Literal

variable {base : Base} {bits : Nat} {text written : String}

/-- A literal of the table in the notation of device lists. -/
def ofTable (base : Base) (written : String) : String :=
  match Text.between? (toString base.radix ++ "#") "#" written with
  | some digits => marked base digits.toList
  | none => written

theorem ofTable_based (digits : List Char) :
    ofTable base (based base digits) = marked base digits := by
  simp only [ofTable, based, Text.between?_append, String.toList_ofList]

/-- The literal that was given is found again from the one in the table. -/
theorem ofTable_forTable (h : forTable text base bits = .ok written) :
    ofTable base written = text := by
  obtain ⟨rfl, rfl⟩ | ⟨digits, -, -, rfl, rfl⟩ := forTable_eq_ok_iff.mp h
  · cases base <;> rfl
  · exact ofTable_based digits

end Literal

/-! ## Interrupts -/

namespace Interrupt

variable {numbers : List Nat} {slotTexts : Vector String slotCount} {values : List Json.Value}

/-- The numbers in the slots of a row that are in use. -/
def numbersOf (slotTexts : Vector String slotCount) : List Nat :=
  slotTexts.toList.filterMap fun text => (Reading.slot? text).join

/-- Interrupt numbers as JSON integers. -/
def integers (numbers : List Nat) : List Json.Value :=
  numbers.map fun (n : Nat) => .number (.integer n)

theorem numbersOf_row (h : numbers.length ≤ slotCount) : numbersOf (row numbers) = numbers := by
  have hused : (numbers.map reference).filterMap (fun text => (Reading.slot? text).join) =
      numbers := by
    simp [List.filterMap_map, Reading.slot?_reference]
  have hunused (k : Nat) : (List.replicate k noInterrupt).filterMap
      (fun text => (Reading.slot? text).join) = [] := by
    simp [List.filterMap_replicate, Reading.slot?_noInterrupt]
  rw [numbersOf, toList_row h, List.filterMap_append, hused, hunused, List.append_nil]

theorem slots_integers (hlength : numbers.length ≤ slotCount) (hlimit : ∀ n ∈ numbers, n < limit) :
    slots (integers numbers) = .ok (row numbers) := by
  refine slots_eq_ok_iff.mpr ⟨by rwa [integers, List.length_map], numbers, ?_, rfl⟩
  rw [integers, List.forall₂_map_left_iff, List.forall₂_same]
  exact fun n hn => ⟨.integer n, hlimit n hn⟩

/-- The numbers in the slots are those that were given, and as integers they fill the same slots. -/
theorem numbersOf_slots (h : slots values = .ok slotTexts) :
    List.Forall₂ Denotes values (numbersOf slotTexts) ∧
      slots (integers (numbersOf slotTexts)) = .ok slotTexts := by
  obtain ⟨hlength, numbers, hnumbers, rfl⟩ := slots_eq_ok_iff.mp h
  rw [hnumbers.length_eq] at hlength
  rw [numbersOf_row hlength]
  refine ⟨hnumbers.imp fun _ _ => And.left, slots_integers hlength fun n hn => ?_⟩
  obtain ⟨_, -, -, hlimit⟩ := exists_of_mem_right hnumbers hn
  exact hlimit

end Interrupt

/-! ## Records -/

/-- The record that says what an entry shows. -/
def Record.ofEntry (entry : Entry) : Record where
  name := entry.identifier
  address := some (Literal.ofTable .hexadecimal entry.address)
  size := some (Literal.ofTable .hexadecimal entry.size)
  subregionMask := some (Literal.ofTable .binary entry.subregions)
  readOnly := some entry.readOnly
  interrupts := some (Interrupt.integers (Interrupt.numbersOf entry.interrupts))

namespace Entry

variable {config : Config} {record : Record} {entry : Entry} {field : NumberField} {text : String}

theorem ofTable_literalOf (h : literalOf record field = .ok text) :
    field.text? record = some (Literal.ofTable field.base text) := by
  obtain ⟨given, hgiven, htable⟩ := literalOf_eq_ok_iff.mp h
  rw [hgiven, Literal.ofTable_forTable htable]

/-- A record with the same literals for a field has the same literal in its entry. -/
theorem literalOf_congr {record' : Record} (h : literalOf record field = .ok text)
    (hsame : field.text? record' = field.text? record) : literalOf record' field = .ok text := by
  obtain ⟨given, hgiven, htable⟩ := literalOf_eq_ok_iff.mp h
  exact literalOf_eq_ok_iff.mpr ⟨given, hsame.trans hgiven, htable⟩

theorem Renders.ofEntry (h : Renders config record entry) :
    Renders config (.ofEntry entry) entry where
  identifier := Identifier.ofName_self h.valid
  width := h.width
  paddedName := h.paddedName
  address := literalOf_congr h.address (ofTable_literalOf h.address).symm
  size := literalOf_congr h.size (ofTable_literalOf h.size).symm
  subregions := literalOf_congr h.subregions (ofTable_literalOf h.subregions).symm
  interrupts :=
    slotsOf_eq_ok_iff.mpr (Interrupt.numbersOf_slots (slotsOf_eq_ok_iff.mp h.interrupts)).2
  readOnly := rfl

/-- What is reported of a block depends on its identifier alone. -/
theorem Renders.ofRecord_eq (h : Renders config record entry) :
    ofRecord config record = checkWidth config entry.identifier >>= fun _ => pure entry := by
  have hname : identifierOf record = pure entry.identifier := by
    rw [identifierOf, h.identifier]
    rfl
  have hentry : withIdentifier entry.identifier record = .ok entry :=
    withIdentifier_eq_ok_iff.mpr ⟨rfl, h.paddedName, h.address, h.size, h.subregions, h.interrupts,
      h.readOnly⟩
  rw [ofRecord, hname, pure_bind]
  refine bind_congr fun _ => ?_
  rw [hentry]
  rfl

theorem ofRecord_ofEntry (h : (ofRecord config record).result = .ok entry) :
    ofRecord config (.ofEntry entry) = ofRecord config record := by
  have hrenders := ofRecord_result_eq_ok_iff.mp h
  rw [hrenders.ofRecord_eq, hrenders.ofEntry.ofRecord_eq]

end Entry

/-! ## Device lists -/

/-- The record that says what the entry of a record shows, if there is an entry. -/
def Record.canonical (config : Config) (record : Record) : Record :=
  ((Entry.ofRecord config record).result.toOption.map ofEntry).getD record

/-- Blocks are described by their entries. -/
def Device.canonical (config : Config) : Device → Device
  | block record => block (record.canonical config)
  | skipped kind name => skipped kind name

theorem Entry.ofRecord_canonical (config : Config) (record : Record) :
    ofRecord config (record.canonical config) = ofRecord config record := by
  cases h : (ofRecord config record).result with
  | ok entry =>
    have hcanonical : record.canonical config = .ofEntry entry := by rw [Record.canonical, h]; rfl
    rw [hcanonical, ofRecord_ofEntry h]
  | error e =>
    have hcanonical : record.canonical config = record := by rw [Record.canonical, h]; rfl
    rw [hcanonical]

namespace Table

variable {config : Config} {devices : List Device}

theorem addDevice_canonical (table : Table) (device : Device) :
    addDevice config table (device.canonical config) = addDevice config table device := by
  cases device with
  | skipped kind name => rfl
  | block record =>
    rw [Device.canonical, addDevice, addDevice, Entry.ofRecord_canonical]

theorem ofDevices_canonical (config : Config) (devices : List Device) :
    ofDevices config (devices.map (Device.canonical config)) = ofDevices config devices :=
  ofDevices_congr (List.forall₂_map_left_iff.mpr
    (List.forall₂_same.mpr fun device _ table => addDevice_canonical table device))

end Table

namespace Document

variable {config : Config} {devices : List Device}

theorem ofDevices_canonical (config : Config) (devices : List Device) :
    ofDevices config (devices.map (Device.canonical config)) = ofDevices config devices := by
  rw [ofDevices, ofDevices, Table.ofDevices_canonical, List.length_map]

end Document

/-- A record made from an entry has what the first record had, in the form in which the entry shows
it, and it has the same entry. So the blocks of a list that has a table can all be described by
their entries, and nothing changes. -/
theorem Record.ofEntry_stands_for :
    (∀ config record entry, (Entry.ofRecord config record).result = .ok entry →
      (ofEntry entry).address = record.address ∧ (ofEntry entry).size = record.size ∧
      (ofEntry entry).subregionMask = record.subregionMask ∧
      (ofEntry entry).readOnly = record.readOnly ∧
      (∃ numbers, List.Forall₂ Interrupt.Denotes (record.interrupts.getD []) numbers ∧
        (ofEntry entry).interrupts = some (Interrupt.integers numbers)) ∧
      (Entry.ofRecord config (ofEntry entry)).result = .ok entry) ∧
    (∀ config devices table, (Table.ofDevices config devices).result = .ok table →
      (Table.ofDevices config (devices.map (Device.canonical config))).result = .ok table ∧
      Document.ofDevices config (devices.map (Device.canonical config)) =
        Document.ofDevices config devices) := by
  constructor
  · intro config record entry hentry
    have hrenders := Entry.ofRecord_result_eq_ok_iff.mp hentry
    have hslots := Interrupt.numbersOf_slots (Entry.slotsOf_eq_ok_iff.mp hrenders.interrupts)
    exact ⟨(Entry.ofTable_literalOf hrenders.address).symm,
      (Entry.ofTable_literalOf hrenders.size).symm,
      (Entry.ofTable_literalOf hrenders.subregions).symm,
      (Entry.readOnlyOf_eq_ok_iff.mp hrenders.readOnly).symm, ⟨_, hslots.1, rfl⟩,
      Entry.ofRecord_result_eq_ok_iff.mpr hrenders.ofEntry⟩
  · intro config devices table htable
    exact ⟨(congrArg Run.result (Table.ofDevices_canonical config devices)).trans htable,
      Document.ofDevices_canonical config devices⟩

theorem Record.ofEntry_stands_for_serialPort :
    (ofEntry (.serialPort "USART_1")).address = some "0x4001_1000" ∧
    (ofEntry (.serialPort "USART_1")).subregionMask = some "0b1100_0000" ∧
    (Entry.ofRecord {} (ofEntry (.serialPort "USART_1"))).result = .ok (.serialPort "USART_1") ∧
    (Table.ofDevices {} ((Device.serialPorts ["usart-1", "uart4"]).map
      (Device.canonical {}))).result = .ok ⟨[.serialPort "USART_1", .serialPort "UART4"]⟩ := by
  obtain ⟨hrecord, hlist⟩ := ofEntry_stands_for
  obtain ⟨haddress, -, hmask, -, -, hentry⟩ :=
    hrecord {} (.serialPort "usart-1") (.serialPort "USART_1") rfl
  exact ⟨haddress, hmask, hentry,
    (hlist {} (Device.serialPorts ["usart-1", "uart4"]) _ rfl).1⟩

end PeriphMap
