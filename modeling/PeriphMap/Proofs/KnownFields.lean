import PeriphMap.Document
import PeriphMap.Proofs.Records
import PeriphMap.Proofs.Tables

/-! What in a text has a part in its document. Two texts whose blocks agree in the fields of a
record have the same document or fail alike, whatever else they say and in whichever order. -/

namespace PeriphMap

open Json (Value)

/-! ## Fields -/

namespace Record

variable {α : Type} {read : Value → Except Mismatch α} {members members' : List (String × Value)}
  {record record' : Record}

/-- A field that is null might as well not be there. -/
def given : Option Value → Option Value
  | some .null => none
  | field => field

/-- Nor need there be a list of interrupts when it is empty. -/
def listed (field : Option Value) : Option Value :=
  match given field with
  | some (.array []) => none
  | field => field

/-- Of an interrupt that is an object only its value matters. -/
inductive SameInterrupt : Value → Value → Prop where
  | same (interrupt : Value) : SameInterrupt interrupt interrupt
  | object {members members' : List (String × Value)} :
      members.lookup "value" = members'.lookup "value" →
      SameInterrupt (.object members) (.object members')

inductive SameInterrupts : Option Value → Option Value → Prop where
  | same (field : Option Value) : SameInterrupts field field
  | array {values values' : List Value} : List.Forall₂ SameInterrupt values values' →
      SameInterrupts (some (.array values)) (some (.array values'))

/-- Objects that agree in the fields of a record. -/
structure SameFields (members members' : List (String × Value)) : Prop where
  name : members.lookup "name" = members'.lookup "name"
  address : given (members.lookup "address") = given (members'.lookup "address")
  size : given (members.lookup "size") = given (members'.lookup "size")
  subregionMask : given (members.lookup "memory_subregion_mask") =
    given (members'.lookup "memory_subregion_mask")
  readOnly : given (members.lookup "read_only") = given (members'.lookup "read_only")
  interrupts : SameInterrupts (listed (members.lookup "irqs")) (listed (members'.lookup "irqs"))

/-- Records that differ at most in whether interrupts are said to be none or not mentioned. -/
structure Alike (record record' : Record) : Prop where
  name : record.name = record'.name
  address : record.address = record'.address
  size : record.size = record'.size
  subregionMask : record.subregionMask = record'.subregionMask
  readOnly : record.readOnly = record'.readOnly
  interrupts : record.interrupts.getD [] = record'.interrupts.getD []

theorem SameInterrupt.symm {interrupt interrupt' : Value} (h : SameInterrupt interrupt interrupt') :
    SameInterrupt interrupt' interrupt := by
  cases h with
  | same => exact .same _
  | object h => exact .object h.symm

theorem SameInterrupts.symm {field field' : Option Value} (h : SameInterrupts field field') :
    SameInterrupts field' field := by
  cases h with
  | same => exact .same _
  | array h => exact .array (h.flip.imp fun _ _ => SameInterrupt.symm)

theorem SameFields.symm (h : SameFields members members') : SameFields members' members :=
  ⟨h.name.symm, h.address.symm, h.size.symm, h.subregionMask.symm, h.readOnly.symm,
    h.interrupts.symm⟩

theorem fieldWith_given_iff {field : Option Value} {new : Option α} :
    FieldWith (optional read) (given field) none new ↔
      FieldWith (optional read) field none new := by
  unfold given
  split
  · exact Except.ok.injEq .. |>.to_iff.symm
  · rfl

theorem SameInterrupt.read_eq {interrupt interrupt' : Value}
    (h : SameInterrupt interrupt interrupt') :
    readInterrupt interrupt = readInterrupt interrupt' := by
  cases h with
  | same => rfl
  | object h => simp only [readInterrupt, h]

theorem SameInterrupts.fieldWith_iff {field field' : Option Value} {new : Option (List Value)}
    (h : SameInterrupts field field') :
    FieldWith (optional readInterrupts) field none new ↔
      FieldWith (optional readInterrupts) field' none new := by
  cases h with
  | same => rfl
  | @array values values' h =>
    have hread : values.mapM readInterrupt = values'.mapM readInterrupt := by
      induction h with
      | nil => rfl
      | cons h _ ih => rw [List.mapM_cons, List.mapM_cons, h.read_eq, ih]
    simp only [FieldWith, optional, readInterrupts, hread]

theorem exists_fieldWith_listed_iff {field : Option Value} {values : List Value} :
    (∃ new, FieldWith (optional readInterrupts) (listed field) none new ∧ new.getD [] = values) ↔
      ∃ new, FieldWith (optional readInterrupts) field none new ∧ new.getD [] = values := by
  have hgiven (new : Option (List Value)) : FieldWith (optional readInterrupts) field none new ↔
      FieldWith (optional readInterrupts) (given field) none new := fieldWith_given_iff.symm
  simp only [hgiven]
  unfold listed
  split
  · next h =>
    rw [h]
    constructor
    · rintro ⟨_, rfl, rfl⟩
      exact ⟨some [], rfl, rfl⟩
    · rintro ⟨_, ⟨⟩, rfl⟩
      exact ⟨none, rfl, rfl⟩
  · rfl

/-- Objects that agree in the fields of a record are read as records that are alike. -/
theorem SameFields.exists_alike (h : SameFields members members')
    (hkeys : (members.map Prod.fst).Nodup) (hkeys' : (members'.map Prod.fst).Nodup)
    (hrecord : ofMembers members = .ok record) :
    ∃ record', ofMembers members' = .ok record' ∧ Alike record record' := by
  obtain ⟨hname, hwith⟩ := (ofMembers_eq_ok_iff hkeys).mp hrecord
  obtain ⟨interrupts, hinterrupts, hvalues⟩ := exists_fieldWith_listed_iff.mpr
    ⟨record.interrupts, hwith.interrupts, rfl⟩
  obtain ⟨interrupts', hinterrupts', hvalues'⟩ := exists_fieldWith_listed_iff.mp
    ⟨interrupts, h.interrupts.fieldWith_iff.mp hinterrupts, hvalues⟩
  refine ⟨{ record with interrupts := interrupts' }, (ofMembers_eq_ok_iff hkeys').mpr
    ⟨h.name ▸ hname, ?_⟩, rfl, rfl, rfl, rfl, rfl, hvalues'.symm⟩
  exact {
    name := h.name ▸ hwith.name
    address := fieldWith_given_iff.mp (h.address ▸ fieldWith_given_iff.mpr hwith.address)
    size := fieldWith_given_iff.mp (h.size ▸ fieldWith_given_iff.mpr hwith.size)
    subregionMask :=
      fieldWith_given_iff.mp (h.subregionMask ▸ fieldWith_given_iff.mpr hwith.subregionMask)
    readOnly := fieldWith_given_iff.mp (h.readOnly ▸ fieldWith_given_iff.mpr hwith.readOnly)
    interrupts := hinterrupts' }

end Record

theorem Entry.ofRecord_congr {record record' : Record} (config : Config)
    (h : record.Alike record') : ofRecord config record = ofRecord config record' := by
  have hliteral (field : NumberField) : literalOf record field = literalOf record' field := by
    cases field <;>
      simp only [literalOf, NumberField.text?, h.name, h.address, h.size, h.subregionMask]
  have hslots : slotsOf record = slotsOf record' := by
    simp only [slotsOf, h.name, h.interrupts]
  have hreadOnly : readOnlyOf record = readOnlyOf record' := by
    simp only [readOnlyOf, h.name, h.readOnly]
  simp only [ofRecord, identifierOf, withIdentifier, hliteral, hslots, hreadOnly, h.name]

/-! ## Device lists -/

namespace Device

variable {entry : Value} {entries entries' : List Value} {device : Device} {devices : List Device}
  {index : Nat}

/-- An entry that says what type of device it describes. -/
def IsTyped (entry : Value) : Prop :=
  ∃ members kind, entry = .object members ∧ members.lookup "type" = some (.string kind)

/-- The members of an entry that describes a block. -/
def membersOfBlock? : Value → Option (List (String × Value))
  | .object members =>
    if (members.lookup "type").bind (·.string?) = some blockKind then some members else none
  | _ => none

/-- The members of the entries that describe blocks, in the order of the list. -/
def blockMembers (entries : List Value) : List (List (String × Value)) :=
  entries.filterMap membersOfBlock?

theorem mem_blockMembers {members : List (String × Value)} (h : members ∈ blockMembers entries) :
    .object members ∈ entries := by
  obtain ⟨entry, hentry, hmembers⟩ := List.mem_filterMap.mp h
  unfold membersOfBlock? at hmembers
  split at hmembers
  · split_ifs at hmembers
    cases hmembers
    exact hentry
  · cases hmembers

theorem rel_of_ofEntry (h : ofEntry index entry = .ok device) :
    Option.Rel (fun members record => Record.ofMembers members = .ok record)
      (membersOfBlock? entry) device.record? := by
  unfold ofEntry at h
  split at h
  case h_2 => cases h
  split at h
  case h_1 => cases h
  next members kind hkind =>
    rw [membersOfBlock?, hkind]
    split_ifs at h with hblock
    · split at h
      case h_2 => cases h
      next record hrecord =>
        cases h
        rw [if_pos (congrArg some hblock)]
        exact .some hrecord
    · cases h
      rw [if_neg fun heq => hblock (Option.some.inj heq)]
      exact .none

theorem exists_ofEntry (htyped : IsTyped entry)
    (h : ∀ members ∈ membersOfBlock? entry, ∃ record, Record.ofMembers members = .ok record) :
    ∃ device, ofEntry index entry = .ok device := by
  obtain ⟨members, kind, rfl, hkind⟩ := htyped
  have hkind : (members.lookup "type").bind (·.string?) = some kind := by
    rw [hkind]
    rfl
  simp only [membersOfBlock?, hkind] at h
  simp only [ofEntry, hkind]
  split_ifs with hblock
  · rw [if_pos (congrArg some hblock)] at h
    obtain ⟨record, hrecord⟩ := h members rfl
    rw [hrecord]
    exact ⟨_, rfl⟩
  · exact ⟨_, rfl⟩

theorem forall₂_of_listOfJson (h : listOfJson (.array entries) = .ok devices) :
    List.Forall₂ (fun members record => Record.ofMembers members = .ok record)
      (blockMembers entries) (blocks devices) := by
  have hentries := mapM_eq_ok_iff.mp h
  have hblocks : blockMembers entries =
      entries.zipIdx.filterMap (membersOfBlock? ∘ Prod.fst) := by
    rw [← List.filterMap_map, List.zipIdx_map_fst]
    rfl
  rw [hblocks]
  exact List.rel_filterMap (fun _ _ hentry => rel_of_ofEntry hentry) hentries

theorem exists_listOfJson (htyped : ∀ entry ∈ entries, IsTyped entry)
    (h : ∀ members ∈ blockMembers entries, ∃ record, Record.ofMembers members = .ok record) :
    ∃ devices, listOfJson (.array entries) = .ok devices := by
  refine exists_mapM_eq_ok fun (entry, index) hindexed => ?_
  have hentry : entry ∈ entries := by
    rw [← List.zipIdx_map_fst 0 entries]
    exact List.mem_map_of_mem hindexed
  exact exists_ofEntry (htyped entry hentry) fun members hmembers =>
    h members (List.mem_filterMap.mpr ⟨entry, hentry, hmembers⟩)

theorem nodup_keys_of_parse {text : String} (h : Json.parse text = .ok (.array entries)) :
    ∀ members ∈ blockMembers entries, (members.map Prod.fst).Nodup := by
  intro members hmembers
  cases Json.keyed_of_parse h with
  | array hentries =>
    cases hentries _ (mem_blockMembers hmembers) with
    | object hkeys _ => exact hkeys

/-- Entries that agree in the fields of a record are read alike. -/
theorem exists_alike {objects objects' : List (List (String × Value))} {records : List Record}
    (hsame : List.Forall₂ Record.SameFields objects objects')
    (hkeys : ∀ members ∈ objects, (members.map Prod.fst).Nodup)
    (hkeys' : ∀ members ∈ objects', (members.map Prod.fst).Nodup)
    (h : List.Forall₂ (fun members record => Record.ofMembers members = .ok record)
      objects records) :
    ∃ records', List.Forall₂ (fun members record => Record.ofMembers members = .ok record)
      objects' records' ∧ List.Forall₂ Record.Alike records records' := by
  induction hsame generalizing records with
  | nil =>
    cases h
    exact ⟨[], .nil, .nil⟩
  | cons hsame _ ih =>
    rw [List.forall_mem_cons] at hkeys hkeys'
    cases h with
    | cons hrecord h =>
      obtain ⟨record', hrecord', halike⟩ := hsame.exists_alike hkeys.1 hkeys'.1 hrecord
      obtain ⟨records', hrecords', halikes⟩ := ih hkeys.2 hkeys'.2 h
      exact ⟨record' :: records', .cons hrecord' hrecords', .cons halike halikes⟩

theorem exists_listOfJson_alike {text text' : String}
    (htext : Json.parse text = .ok (.array entries))
    (htext' : Json.parse text' = .ok (.array entries'))
    (htyped' : ∀ entry ∈ entries', IsTyped entry)
    (hsame : List.Forall₂ Record.SameFields (blockMembers entries) (blockMembers entries'))
    (h : listOfJson (.array entries) = .ok devices) :
    ∃ devices', listOfJson (.array entries') = .ok devices' ∧
      List.Forall₂ Record.Alike (blocks devices) (blocks devices') := by
  obtain ⟨records, hrecords, halike⟩ := exists_alike hsame (nodup_keys_of_parse htext)
    (nodup_keys_of_parse htext') (forall₂_of_listOfJson h)
  obtain ⟨devices', hdevices'⟩ := exists_listOfJson htyped' fun members hmembers => by
    obtain ⟨record, -, hrecord⟩ := exists_of_mem_left hrecords hmembers
    exact ⟨record, hrecord⟩
  -- what an entry is read as is unique, so these are the records of the second list
  have hblocks : Except.ok (blocks devices') = Except.ok records :=
    (mapM_eq_ok_iff.mpr (forall₂_of_listOfJson hdevices')).symm.trans (mapM_eq_ok_iff.mpr hrecords)
  cases hblocks
  exact ⟨devices', hdevices', halike⟩

end Device

/-! ## Documents -/

namespace Table

variable {config : Config} {devices devices' : List Device}

/-- Skipped devices have no part in the table. -/
theorem ofDevices_blocks_result : (ofDevices config devices).result =
    (ofDevices config ((Device.blocks devices).map .block)).result := by
  induction devices using List.reverseRecOn with
  | nil => rfl
  | append_singleton devices device ih =>
    rw [ofDevices_concat, Run.bind_result, ih, Device.blocks_append, List.map_append]
    cases device with
    | skipped kind name =>
      simp only [addDevice_skipped_result, Device.blocks_skipped, List.map_nil, List.append_nil]
      exact bind_pure _
    | block record =>
      rw [Device.blocks_block, List.map_singleton, ofDevices_concat, Run.bind_result]

theorem ofDevices_result_congr
    (h : List.Forall₂ Record.Alike (Device.blocks devices) (Device.blocks devices')) :
    (ofDevices config devices).result = (ofDevices config devices').result := by
  have hblocks : ofDevices config ((Device.blocks devices).map .block) =
      ofDevices config ((Device.blocks devices').map .block) := by
    refine ofDevices_congr (List.rel_map (fun record record' halike table => ?_) h)
    rw [addDevice, addDevice, Entry.ofRecord_congr config halike]
  rw [ofDevices_blocks_result, hblocks, ← ofDevices_blocks_result]

end Table

namespace Document

/-- Documents that are the same, or errors that tell the same except for what they say of a list
that cannot be read. -/
inductive SameOutcome : Except Error String → Except Error String → Prop where
  | document (document : String) : SameOutcome (.ok document) (.ok document)
  | error (error : Error) : SameOutcome (.error error) (.error error)
  | malformed (fault fault' : Device.Fault) :
      SameOutcome (.error (.malformedInput fault)) (.error (.malformedInput fault'))

theorem SameOutcome.refl (result : Except Error String) : SameOutcome result result := by
  cases result with
  | ok document => exact .document document
  | error e => exact .error e

theorem ofText_result {config : Config} {text : String} {value : Value}
    (h : Json.parse text = .ok value) : (ofText config text).result =
      (Device.listOfJson value).mapError .malformedInput >>= fun devices =>
        (ofDevices config devices).result := by
  simp only [ofText, devicesOfText, Run.bind_result, Run.ofExcept_result, Device.listOfText, h]

/-- Only the fields of the blocks have a part in a document. -/
theorem ofText_same_outcome (config : Config) {text text' : String} {entries entries' : List Value}
    (htext : Json.parse text = .ok (.array entries))
    (htext' : Json.parse text' = .ok (.array entries'))
    (htyped : ∀ entry ∈ entries, Device.IsTyped entry)
    (htyped' : ∀ entry ∈ entries', Device.IsTyped entry)
    (hsame : List.Forall₂ Record.SameFields (Device.blockMembers entries)
      (Device.blockMembers entries')) :
    SameOutcome (ofText config text).result (ofText config text').result := by
  rw [ofText_result htext, ofText_result htext']
  cases hlist : Device.listOfJson (.array entries) with
  | error fault =>
    cases hlist' : Device.listOfJson (.array entries') with
    | error fault' => exact .malformed fault fault'
    | ok devices' =>
      obtain ⟨devices, hok, -⟩ := Device.exists_listOfJson_alike htext' htext htyped
        (hsame.flip.imp fun _ _ => Record.SameFields.symm) hlist'
      cases hok.symm.trans hlist
  | ok devices =>
    obtain ⟨devices', hlist', halike⟩ :=
      Device.exists_listOfJson_alike htext htext' htyped' hsame hlist
    have hdocument : (ofDevices config devices).result = (ofDevices config devices').result := by
      simp only [ofDevices, Run.bind_result, Run.report_result, Table.ofDevices_result_congr halike]
    rw [hlist']
    show SameOutcome (ofDevices config devices).result (ofDevices config devices').result
    rw [hdocument]
    exact .refl _

/-! ## Two device lists -/

def terseText : String :=
  "[\x7b\"type\": \"block\", \"name\": \"i2s\", \"address\": \"0\", \"size\": \"0\",
    \"memory_subregion_mask\": \"0\", \"read_only\": true, \"irqs\": [\x7b\"value\": 9\x7d]\x7d]"

/-- The same block, with more about it and next to another device. -/
def wordyText : String :=
  "[\x7b\"type\": \"task\", \"size\": 8\x7d,
   \x7b\"irqs\": [\x7b\"name\": \"\", \"value\": 9\x7d], \"read_only\": true,
    \"memory_subregion_mask\": \"0\", \"bus\": null, \"size\": \"0\",
    \"address\": \"0\", \"name\": \"i2s\", \"type\": \"block\"\x7d]"

def terseEntries : List Value := [
  .object [("type", .string "block"), ("name", .string "i2s"), ("address", .string "0"),
    ("size", .string "0"), ("memory_subregion_mask", .string "0"), ("read_only", .bool true),
    ("irqs", .array [.object [("value", .number (.integer 9))]])]]

def wordyEntries : List Value := [
  .object [("type", .string "task"), ("size", .number (.integer 8))],
  .object [("irqs", .array [.object [("name", .string ""), ("value", .number (.integer 9))]]),
    ("read_only", .bool true), ("memory_subregion_mask", .string "0"), ("bus", .null),
    ("size", .string "0"), ("address", .string "0"), ("name", .string "i2s"),
    ("type", .string "block")]]

theorem ofText_same_outcome_wordyText : ∃ document,
    (ofText {} terseText).result = .ok document ∧
      (ofText {} wordyText).result = .ok document := by
  have hterse : Json.parse terseText = .ok (.array terseEntries) := by decide +kernel
  have hwordy : Json.parse wordyText = .ok (.array wordyEntries) := by decide +kernel
  have htyped : ∀ entry ∈ terseEntries, Device.IsTyped entry := by
    simp only [terseEntries, List.forall_mem_cons]
    exact ⟨⟨_, _, rfl, rfl⟩, nofun⟩
  have htyped' : ∀ entry ∈ wordyEntries, Device.IsTyped entry := by
    simp only [wordyEntries, List.forall_mem_cons]
    exact ⟨⟨_, _, rfl, rfl⟩, ⟨_, _, rfl, rfl⟩, nofun⟩
  have hsame : List.Forall₂ Record.SameFields (Device.blockMembers terseEntries)
      (Device.blockMembers wordyEntries) :=
    .cons ⟨rfl, rfl, rfl, rfl, rfl, .array (.cons (.object rfl) .nil)⟩ .nil
  have hok : (ofText {} terseText).result.isOk := by
    rw [ofText_result hterse]
    decide +kernel
  have houtcome := ofText_same_outcome {} hterse hwordy htyped htyped' hsame
  generalize (ofText {} terseText).result = result, (ofText {} wordyText).result = result'
    at hok houtcome
  cases houtcome with
  | document document => exact ⟨document, rfl, rfl⟩
  | error | malformed => cases hok

end Document
end PeriphMap
