import PeriphMap.Document
import PeriphMap.Proofs.StrictNames

/-! What a generation logs, read off the device list alone: the notices of one device after the
other up to the first fault, each of them found from the device and those before it. -/

namespace PeriphMap

/-- An event as a log shows it. -/
structure Notice where
  level : Level
  text : String
deriving DecidableEq

def Event.notice (event : Event) : Notice where
  level := event.level
  text := event.text

/-! ## The notices of a device list -/

namespace Device

variable {config : Config} {devices xs ys : List Device} {device : Device} {p : Nat}

/-- The identifier that the name of a block amounts to. -/
def identifier? : Device → Option String
  | block record => (Identifier.ofName record.name).toOption
  | skipped _ _ => none

/-- The notice of a name that does not fit the name column. -/
def cutNotices (config : Config) (identifier : String) : List Notice :=
  if nameWidth < identifier.length ∧ config.strictNames = false then
    [⟨.warn, "Identifier " ++ identifier ++ " is longer than " ++ toString nameWidth ++
      " characters, its name is truncated"⟩]
  else []

/-- What is said of a device by itself, whether or not the device is found to be in order. -/
def ownNotices (config : Config) : Device → List Notice
  | skipped kind name =>
    [⟨.debug, "Skipping " ++ kind ++ " device " ++ name.getD "<unnamed>"⟩]
  | block record => (Identifier.ofName record.name).toOption.elim [] (cutNotices config)

/-- The first of the blocks to have a name in its name column, by its identifier. -/
def firstNamed? (devices : List Device) (paddedName : String) : Option String :=
  (devices.filterMap identifier?).find? fun identifier =>
    Text.fit identifier nameWidth = paddedName

/-- The notice of a block whose name column shows the same as that of an earlier one. -/
def sharedNotices (earlier : List Device) (device : Device) : List Notice :=
  match device.identifier? with
  | none => []
  | some identifier =>
    match firstNamed? earlier (Text.fit identifier nameWidth) with
    | none => []
    | some first =>
      [⟨.warn, first ++ " and " ++ identifier ++ " share the table name \"" ++
        Text.fit identifier nameWidth ++ "\""⟩]

/-- All notices of the device at a position. -/
def noticesAt (config : Config) (devices : List Device) (p : Nat) : List Notice :=
  match devices[p]? with
  | none => []
  | some device => device.ownNotices config ++ device.sharedNotices (devices.take p)

/-- All notices of the devices before a position, one device after the other. -/
def noticesBefore (config : Config) (devices : List Device) (p : Nat) : List Notice :=
  (List.range p).flatMap (noticesAt config devices)

theorem noticesAt_append (hp : p < xs.length) :
    noticesAt config (xs ++ ys) p = noticesAt config xs p := by
  rw [noticesAt, noticesAt, List.getElem?_append_left hp, List.take_append_of_le_length hp.le]

theorem noticesBefore_append (hp : p ≤ xs.length) :
    noticesBefore config (xs ++ ys) p = noticesBefore config xs p := by
  refine List.flatMap_congr fun q hq => noticesAt_append ?_
  exact (List.mem_range.mp hq).trans_le hp

theorem noticesBefore_concat (devices : List Device) (device : Device) :
    noticesBefore config (devices ++ [device]) (devices ++ [device]).length =
      noticesBefore config devices devices.length ++
        (device.ownNotices config ++ device.sharedNotices devices) := by
  rw [List.length_append, List.length_singleton, noticesBefore, List.range_succ,
    List.flatMap_append, List.flatMap_singleton]
  congr 1
  · exact noticesBefore_append (Nat.le_refl _)
  · simp [noticesAt]

end Device

/-! ## The notices of a block -/

namespace Entry

variable {config : Config} {record : Record} {identifier : String}

theorem checkWidth_events (config : Config) (identifier : String) :
    (checkWidth config identifier).events =
      if nameWidth < identifier.utf8ByteSize ∧ config.strictNames = false then
        [.nameCut identifier] else [] := by
  unfold checkWidth
  split
  next hfits => simp [Nat.not_lt_of_le hfits]
  next hwide =>
    split
    next hstrict => simp [hstrict]
    next hlenient => simp [hlenient, Nat.lt_of_not_le hwide]

theorem ofRecord_events (config : Config) (record : Record) :
    (ofRecord config record).events =
      match Identifier.ofName record.name with
      | .error _ => []
      | .ok identifier => (checkWidth config identifier).events := by
  unfold ofRecord
  cases hname : (identifierOf record).result with
  | error e =>
    rw [Run.bind_of_error hname]
    rw [identifierOf, Run.ofExcept_result] at hname
    cases hword : Identifier.ofName record.name with
    | error invalid => rfl
    | ok identifier => simp [hword, Except.mapError] at hname
  | ok identifier =>
    rw [Run.bind_of_ok hname, identifierOf_result_eq_ok_iff.mp hname]
    cases hwidth : (checkWidth config identifier).result with
    | error e => simp [Run.bind_of_error hwidth, identifierOf]
    | ok _ => simp [Run.bind_of_ok hwidth, identifierOf]

/-- The notice of a block by itself does not depend on the fields behind its name. -/
theorem ofRecord_notices (config : Config) (record : Record) :
    (ofRecord config record).events.map Event.notice =
      (Device.block record).ownNotices config := by
  rw [ofRecord_events, Device.ownNotices]
  cases hname : Identifier.ofName record.name with
  | error invalid => rfl
  | ok identifier =>
    dsimp only [Except.toOption, Option.elim_some]
    rw [checkWidth_events, utf8ByteSize_of_ofName hname, Device.cutNotices]
    split <;> rfl

end Entry

/-! ## The notices of a table -/

namespace Table

variable {config : Config} {devices : List Device} {device : Device} {table table' : Table}
  {entry : Entry} {e : Error} {p : Nat}

theorem identifiers_eq (h : (ofDevices config devices).result = .ok table) :
    table.identifiers = devices.filterMap Device.identifier? := by
  have hblocks : devices.filterMap Device.identifier? =
      (Device.blocks devices).filterMap fun record => (Identifier.ofName record.name).toOption := by
    rw [Device.blocks, List.filterMap_filterMap]
    refine List.filterMap_congr fun device _ => ?_
    cases device with
    | block record => rw [Device.identifier?, Device.record?, Option.bind_some]
    | skipped kind name => rw [Device.identifier?, Device.record?, Option.bind_none]
  rw [hblocks, identifiers]
  have hentries := (ofDevices_eq_ok_iff.mp h).1
  generalize Device.blocks devices = records, table.entries = entries at hentries ⊢
  induction hentries with
  | nil => rfl
  | cons hentry _ ih =>
    have hname := (Entry.ofRecord_result_eq_ok_iff.mp hentry).identifier
    rw [List.map_cons, ih, List.filterMap_cons_some (by rw [hname]; rfl)]

theorem paddedName_eq_fit (h : (ofDevices config devices).result = .ok table)
    (hentry : entry ∈ table.entries) : entry.paddedName = Text.fit entry.identifier nameWidth := by
  obtain ⟨record, -, hrecord⟩ := exists_of_mem_right (ofDevices_eq_ok_iff.mp h).1 hentry
  exact (Entry.ofRecord_result_eq_ok_iff.mp hrecord).paddedName

/-- The name column of a table, read off its device list. -/
theorem named?_map_identifier (h : (ofDevices config devices).result = .ok table)
    (paddedName : String) :
    (table.named? paddedName).map (·.identifier) = Device.firstNamed? devices paddedName := by
  rw [Device.firstNamed?, ← identifiers_eq h, identifiers, List.find?_map, named?]
  congr 1
  refine List.find?_congr fun entry hentry => ?_
  rw [Function.comp_apply, paddedName_eq_fit h hentry]

theorem add_events (table : Table) (entry : Entry) :
    (table.add entry).events =
      if entry.identifier ∈ table.identifiers then []
      else match table.named? entry.paddedName with
        | none => []
        | some first => [.nameShared first.identifier entry.identifier entry.paddedName] := by
  unfold add
  split
  · rfl
  · cases table.named? entry.paddedName <;> rfl

theorem add_notices_of_new {record : Record} (h : (ofDevices config devices).result = .ok table)
    (hentry : (Entry.ofRecord config record).result = .ok entry)
    (hnew : entry.identifier ∉ table.identifiers) :
    (table.add entry).events.map Event.notice =
      (Device.block record).sharedNotices devices := by
  have hrenders := Entry.ofRecord_result_eq_ok_iff.mp hentry
  have hidentifier : (Device.block record).identifier? = some entry.identifier := by
    rw [Device.identifier?, hrenders.identifier]
    rfl
  rw [add_events, if_neg hnew, hrenders.paddedName, Device.sharedNotices, hidentifier]
  dsimp only
  rw [← named?_map_identifier h]
  cases table.named? (Text.fit entry.identifier nameWidth) <;> rfl

theorem addDevice_notices_of_ok (h : (ofDevices config devices).result = .ok table)
    (hadd : (addDevice config table device).result = .ok table') :
    (addDevice config table device).events.map Event.notice =
      device.ownNotices config ++ device.sharedNotices devices := by
  cases device with
  | skipped kind name => rfl
  | block record =>
    obtain ⟨entry, hentry, hnew, -⟩ := addDevice_block_eq_ok_iff.mp hadd
    rw [addDevice, Run.bind_of_ok hentry, List.map_append, Entry.ofRecord_notices,
      add_notices_of_new h hentry hnew]

theorem addDevice_notices_of_error (hadd : (addDevice config table device).result = .error e) :
    (addDevice config table device).events.map Event.notice = device.ownNotices config := by
  cases device with
  | skipped kind name => cases hadd
  | block record =>
    rcases addDevice_block_eq_error_iff.mp hadd with herror | ⟨entry, hentry, hused, -⟩
    · rw [addDevice, Run.bind_of_error herror, Entry.ofRecord_notices]
    · rw [addDevice, Run.bind_of_ok hentry, List.map_append, Entry.ofRecord_notices, add_events,
        if_pos hused, List.map_nil, List.append_nil]

/-- The notices of a run that comes to an end. -/
theorem ofDevices_notices_of_ok (h : (ofDevices config devices).result = .ok table) :
    (ofDevices config devices).events.map Event.notice =
      Device.noticesBefore config devices devices.length := by
  induction devices using List.reverseRecOn generalizing table with
  | nil => rfl
  | append_singleton devices device ih =>
    rw [ofDevices_concat] at h ⊢
    obtain ⟨before, hbefore, hadd⟩ := Run.bind_result_eq_ok_iff.mp h
    rw [Run.bind_of_ok hbefore, List.map_append, ih hbefore, addDevice_notices_of_ok hbefore hadd,
      Device.noticesBefore_concat]

/-- The notices of a run that stops at a fault. -/
theorem FirstFaultAt.exists_notices (h : FirstFaultAt config devices p e) :
    ∃ device, devices[p]? = some device ∧
      (ofDevices config devices).events.map Event.notice =
        Device.noticesBefore config devices p ++ device.ownNotices config := by
  have hp := h.fault.lt
  obtain ⟨table, htable⟩ := h.exists_table
  have hrun : ofDevices config devices =
      ofDevices config (devices.take p) >>= fun table => addDevice config table devices[p] := by
    rw [← h.ofDevices_take_append [], List.append_nil, List.take_succ_eq_append_getElem hp,
      ofDevices_concat]
  have herror : (addDevice config table devices[p]).result = .error e := by
    have := ofDevices_eq_error_iff.mpr ⟨p, h⟩
    rwa [hrun, Run.bind_of_ok htable] at this
  have hbefore : Device.noticesBefore config (devices.take p) (devices.take p).length =
      Device.noticesBefore config devices p := by
    conv_rhs => rw [← List.take_append_drop p devices]
    rw [List.length_take_of_le hp.le]
    exact (Device.noticesBefore_append (List.length_take_of_le hp.le).ge).symm
  refine ⟨devices[p], List.getElem?_eq_getElem hp, ?_⟩
  rw [hrun, Run.bind_of_ok htable, List.map_append, ofDevices_notices_of_ok htable,
    addDevice_notices_of_error herror, hbefore]

end Table

namespace Document

/-- What is logged of a generation, whether it comes to an end or stops at a fault. -/
theorem ofDevices_notices (config : Config) (devices : List Device) :
    (∀ document, (ofDevices config devices).result = .ok document →
      (ofDevices config devices).events.map Event.notice =
        Device.noticesBefore config devices devices.length ++
          [⟨.debug, "Generating " ++ config.mode.name ++ " table with " ++
            toString (Device.blocks devices).length ++ " of " ++ toString devices.length ++
            " devices"⟩]) ∧
    (∀ e, (ofDevices config devices).result = .error e →
      ∃ p device, Table.FirstFaultAt config devices p e ∧ devices[p]? = some device ∧
        (ofDevices config devices).events.map Event.notice =
          Device.noticesBefore config devices p ++ device.ownNotices config) := by
  constructor
  · intro document h
    obtain ⟨table, htable, -⟩ := Run.bind_result_eq_ok_iff.mp h
    have hlength := (Table.ofDevices_eq_ok_iff.mp htable).1.length_eq
    rw [ofDevices, Run.bind_of_ok htable, List.map_append, Table.ofDevices_notices_of_ok htable,
      hlength]
    rfl
  · intro e h
    rw [ofDevices, Run.bind_result_eq_error_iff] at h
    rcases h with herror | ⟨table, -, hnever⟩
    · obtain ⟨p, hp⟩ := Table.ofDevices_eq_error_iff.mp herror
      obtain ⟨device, hdevice, hnotices⟩ := hp.exists_notices
      refine ⟨p, device, hp, hdevice, ?_⟩
      rw [ofDevices, Run.bind_of_error herror, hnotices]
    · cases hnever

/-- Two names that do not fit and are cut to the same, and the same name twice. -/
theorem ofDevices_notices_serialPorts :
    (ofDevices {} (.skipped "clock" none ::
        Device.serialPorts ["cryp-processor-dma", "cryp-processor-dcmi"])).events.map
          Event.notice =
      [⟨.debug, "Skipping clock device <unnamed>"⟩,
        ⟨.warn, "Identifier CRYP_PROCESSOR_DMA is longer than 16 characters, " ++
          "its name is truncated"⟩,
        ⟨.warn, "Identifier CRYP_PROCESSOR_DCMI is longer than 16 characters, " ++
          "its name is truncated"⟩,
        ⟨.warn, "CRYP_PROCESSOR_DMA and CRYP_PROCESSOR_DCMI share the table name " ++
          "\"CRYP_PROCESSOR_D\""⟩,
        ⟨.debug, "Generating ADA table with 2 of 3 devices"⟩] ∧
    let twice := Device.serialPorts ["cryp-processor-dma", "Cryp_Processor_DMA"]
    ∃ p device, Table.FirstFaultAt {} twice p (.duplicateIdentifier "CRYP_PROCESSOR_DMA") ∧
      twice[p]? = some device ∧
      (ofDevices {} twice).events.map Event.notice =
        Device.noticesBefore {} twice p ++ device.ownNotices {} := by
  constructor
  · obtain ⟨hok, -⟩ := ofDevices_notices {} (.skipped "clock" none ::
      Device.serialPorts ["cryp-processor-dma", "cryp-processor-dcmi"])
    have hrecords : List.Forall₂ (fun record entry => (Entry.ofRecord {} record).result = .ok entry)
        (Device.blocks (.skipped "clock" none ::
          Device.serialPorts ["cryp-processor-dma", "cryp-processor-dcmi"]))
        [.serialPort "CRYP_PROCESSOR_DMA", .serialPort "CRYP_PROCESSOR_DCMI"] :=
      .cons rfl (.cons rfl .nil)
    have hnodup : (Table.mk [.serialPort "CRYP_PROCESSOR_DMA",
        .serialPort "CRYP_PROCESSOR_DCMI"]).identifiers.Nodup := by
      decide +kernel
    have htable := Table.ofDevices_eq_ok_iff.mpr ⟨hrecords, hnodup⟩
    refine (hok _ (Run.bind_result_eq_ok_iff.mpr ⟨_, htable, rfl⟩)).trans ?_
    decide +kernel
  · obtain ⟨-, herror⟩ := ofDevices_notices {}
      (Device.serialPorts ["cryp-processor-dma", "Cryp_Processor_DMA"])
    have hfirst : (Table.ofDevices {} [.block (.serialPort "cryp-processor-dma")]).result =
        .ok ⟨[.serialPort "CRYP_PROCESSOR_DMA"]⟩ :=
      Table.ofDevices_eq_ok_iff.mpr ⟨.cons rfl .nil, List.nodup_singleton _⟩
    have hsecond : (Table.addDevice {} ⟨[.serialPort "CRYP_PROCESSOR_DMA"]⟩
        (.block (.serialPort "Cryp_Processor_DMA"))).result =
          .error (.duplicateIdentifier "CRYP_PROCESSOR_DMA") :=
      Table.addDevice_block_eq_error_iff.mpr
        (.inr ⟨.serialPort "CRYP_PROCESSOR_DMA", rfl, List.mem_singleton_self _, rfl⟩)
    have htwice : (Table.ofDevices {} ([.block (.serialPort "cryp-processor-dma")] ++
        [.block (.serialPort "Cryp_Processor_DMA")])).result =
          .error (.duplicateIdentifier "CRYP_PROCESSOR_DMA") := by
      rw [Table.ofDevices_concat, Run.bind_result_eq_error_iff]
      exact .inr ⟨_, hfirst, hsecond⟩
    exact herror _ (Run.bind_result_eq_error_iff.mpr (.inl htwice))

end Document
end PeriphMap
