import PeriphMap.Proofs.Entries
import PeriphMap.Table

/-! When a device list has a table, which table it is, and which device decides the error when it
has none. The table of a list is built from that of the list without its last device, so most facts
are by induction from the end. -/

namespace PeriphMap

/-! ## Blocks -/

namespace Device

variable {devices xs ys : List Device} {record : Record}

@[simp] theorem blocks_nil : blocks [] = [] := rfl

@[simp] theorem blocks_append : blocks (xs ++ ys) = blocks xs ++ blocks ys :=
  List.filterMap_append

@[simp] theorem blocks_block (record : Record) : blocks [block record] = [record] := rfl

@[simp] theorem blocks_skipped (kind : String) (name : Option String) :
    blocks [skipped kind name] = [] := rfl

theorem mem_blocks_iff : record ∈ blocks devices ↔ block record ∈ devices := by
  rw [blocks, List.mem_filterMap]
  constructor
  · intro h
    obtain ⟨_ | _, hd, hr⟩ := h
    · cases hr
      exact hd
    · contradiction
  · exact fun h => ⟨_, h, rfl⟩

end Device

namespace Table

variable {config : Config} {devices xs ys : List Device} {table table' : Table} {record : Record}
  {entry : Entry} {e : Error} {p : Nat}

/-! ## Steps -/

theorem add_result (table : Table) (entry : Entry) :
    (table.add entry).result =
      if entry.identifier ∈ table.identifiers then .error (.duplicateIdentifier entry.identifier)
      else .ok ⟨table.entries ++ [entry]⟩ := by
  unfold add
  split
  · rfl
  · split <;> rfl

theorem of_named?_eq_some {paddedName : String} {first : Entry}
    (h : table.named? paddedName = some first) :
    first ∈ table.entries ∧ first.paddedName = paddedName :=
  ⟨List.mem_of_find?_eq_some h, of_decide_eq_true (List.find?_some h :)⟩

theorem addDevice_skipped_result (kind : String) (name : Option String) :
    (addDevice config table (.skipped kind name)).result = .ok table := rfl

theorem addDevice_block_eq_ok_iff : (addDevice config table (.block record)).result = .ok table' ↔
    ∃ entry, (Entry.ofRecord config record).result = .ok entry ∧
      entry.identifier ∉ table.identifiers ∧ ⟨table.entries ++ [entry]⟩ = table' := by
  rw [addDevice, Run.bind_result_eq_ok_iff]
  refine exists_congr fun entry => and_congr_right fun _ => ?_
  rw [add_result]
  split <;> simp_all

theorem addDevice_block_eq_error_iff : (addDevice config table (.block record)).result = .error e ↔
    (Entry.ofRecord config record).result = .error e ∨
      ∃ entry, (Entry.ofRecord config record).result = .ok entry ∧
        entry.identifier ∈ table.identifiers ∧ .duplicateIdentifier entry.identifier = e := by
  rw [addDevice, Run.bind_result_eq_error_iff]
  refine or_congr_right (exists_congr fun entry => and_congr_right fun _ => ?_)
  rw [add_result]
  split <;> simp_all

/-! ## Runs -/

theorem ofDevices_append : ofDevices config (xs ++ ys) =
    ofDevices config xs >>= fun table => ys.foldlM (addDevice config) table :=
  List.foldlM_append

theorem ofDevices_concat (devices : List Device) (device : Device) :
    ofDevices config (devices ++ [device]) =
      ofDevices config devices >>= fun table => addDevice config table device := by
  simp only [ofDevices_append, List.foldlM_cons, List.foldlM_nil, bind_pure]

/-- Lists whose devices are added in the same way, one by one, have the same run. -/
theorem ofDevices_congr {config' : Config} (h : List.Forall₂ (fun x y =>
    ∀ table, addDevice config table x = addDevice config' table y) xs ys) :
    ofDevices config xs = ofDevices config' ys := by
  unfold ofDevices
  generalize empty = table
  induction h generalizing table with
  | nil => rw [List.foldlM_nil, List.foldlM_nil]
  | cons hxy _ ih =>
    rw [List.foldlM_cons, List.foldlM_cons, hxy]
    exact bind_congr ih

theorem identifiers_concat (entries : List Entry) (entry : Entry) :
    (Table.mk (entries ++ [entry])).identifiers =
      (Table.mk entries).identifiers ++ [entry.identifier] :=
  List.map_append

/-- A list has a table if and only if every block has an entry and no two of them have the same
identifier, and the table then consists of these entries. -/
theorem ofDevices_eq_ok_iff : (ofDevices config devices).result = .ok table ↔
    List.Forall₂ (fun record entry => (Entry.ofRecord config record).result = .ok entry)
      (Device.blocks devices) table.entries ∧ table.identifiers.Nodup := by
  induction devices using List.reverseRecOn generalizing table with
  | nil =>
    rw [Device.blocks_nil, List.forall₂_nil_left_iff]
    constructor
    · rintro ⟨⟩
      exact ⟨rfl, List.nodup_nil⟩
    · intro h
      obtain ⟨hentries, -⟩ := h
      cases table
      cases hentries
      rfl
  | append_singleton devices device ih =>
    rw [ofDevices_concat, Run.bind_result_eq_ok_iff, Device.blocks_append]
    cases device with
    | skipped kind name =>
      simp only [addDevice_skipped_result, Except.ok.injEq, exists_eq_right,
        Device.blocks_skipped, List.append_nil, ih]
    | block record =>
      simp only [addDevice_block_eq_ok_iff, ih, Device.blocks_block, forall₂_concat_iff]
      constructor
      · intro h
        obtain ⟨before, ⟨hbefore, hnodup⟩, entry, hentry, hnew, rfl⟩ := h
        refine ⟨⟨_, _, hbefore, hentry, rfl⟩, ?_⟩
        rw [identifiers_concat]
        exact hnodup.append (List.nodup_singleton _) (List.disjoint_singleton.mpr hnew)
      · intro h
        obtain ⟨⟨entries, entry, hentries, hentry, htable⟩, hnodup⟩ := h
        obtain ⟨all⟩ := table
        obtain rfl : all = entries ++ [entry] := htable
        rw [identifiers_concat, List.nodup_append'] at hnodup
        exact ⟨⟨entries⟩, ⟨hentries, hnodup.1⟩, entry, hentry,
          List.disjoint_singleton.mp hnodup.2.2, rfl⟩

theorem wellFormed_of_mem_entries (h : (ofDevices config devices).result = .ok table)
    (hentry : entry ∈ table.entries) : entry.WellFormed config := by
  obtain ⟨record, -, hrecord⟩ := exists_of_mem_right (ofDevices_eq_ok_iff.mp h).1 hentry
  exact (Entry.ofRecord_result_eq_ok_iff.mp hrecord).wellFormed

theorem valid_of_mem_identifiers {word : String}
    (h : (ofDevices config devices).result = .ok table)
    (hword : word ∈ table.identifiers) : Identifier.Valid word := by
  obtain ⟨entry, hentry, rfl⟩ := List.mem_map.mp hword
  exact (wellFormed_of_mem_entries h hentry).identifier

/-! ## Faults -/

/-- The block at position `p` has the entry `entry`, which is found from that block alone. -/
def EntryAt (config : Config) (devices : List Device) (p : Nat) (entry : Entry) : Prop :=
  ∃ record, devices[p]? = some (.block record) ∧
    (Entry.ofRecord config record).result = .ok entry

/-- What is wrong with the block at position `p`, given the blocks before it: it has no entry, or
its entry has the identifier of an earlier one. -/
inductive FaultAt (config : Config) (devices : List Device) (p : Nat) : Error → Prop where
  | encoding {record : Record} {e : Error} : devices[p]? = some (.block record) →
      (Entry.ofRecord config record).result = .error e → FaultAt config devices p e
  | duplicate {q : Nat} {entry earlier : Entry} : EntryAt config devices p entry → q < p →
      EntryAt config devices q earlier → earlier.identifier = entry.identifier →
      FaultAt config devices p (.duplicateIdentifier entry.identifier)

/-- The least position with something wrong. -/
structure FirstFaultAt (config : Config) (devices : List Device) (p : Nat) (e : Error) :
    Prop where
  fault : FaultAt config devices p e
  first : ∀ q < p, ∀ e', ¬FaultAt config devices q e'

theorem EntryAt.lt (h : EntryAt config devices p entry) : p < devices.length := by
  obtain ⟨record, hp, -⟩ := h
  exact (List.getElem?_eq_some_iff.mp hp).1

theorem FaultAt.lt (h : FaultAt config devices p e) : p < devices.length := by
  cases h with
  | encoding hp _ => exact (List.getElem?_eq_some_iff.mp hp).1
  | duplicate hp _ _ _ => exact hp.lt

theorem entryAt_append_iff (hp : p < xs.length) :
    EntryAt config (xs ++ ys) p entry ↔ EntryAt config xs p entry := by
  simp only [EntryAt, List.getElem?_append_left hp]

/-- What follows a block has no part in its faults. -/
theorem faultAt_append_iff (hp : p < xs.length) :
    FaultAt config (xs ++ ys) p e ↔ FaultAt config xs p e := by
  constructor
  · intro h
    obtain ⟨hat, he⟩ | ⟨hat, hq, hearlier, hid⟩ := h
    · exact .encoding (List.getElem?_append_left hp ▸ hat) he
    · exact .duplicate ((entryAt_append_iff hp).mp hat) hq
        ((entryAt_append_iff (hq.trans hp)).mp hearlier) hid
  · intro h
    obtain ⟨hat, he⟩ | ⟨hat, hq, hearlier, hid⟩ := h
    · exact .encoding (List.getElem?_append_left hp ▸ hat) he
    · exact .duplicate ((entryAt_append_iff hp).mpr hat) hq
        ((entryAt_append_iff (hq.trans hp)).mpr hearlier) hid

theorem firstFaultAt_append_iff (hp : p < xs.length) :
    FirstFaultAt config (xs ++ ys) p e ↔ FirstFaultAt config xs p e := by
  constructor
  · intro h
    obtain ⟨hfault, hfirst⟩ := h
    refine ⟨(faultAt_append_iff hp).mp hfault, fun q hq e' h => hfirst q hq e' ?_⟩
    exact (faultAt_append_iff (hq.trans hp)).mpr h
  · intro h
    obtain ⟨hfault, hfirst⟩ := h
    refine ⟨(faultAt_append_iff hp).mpr hfault, fun q hq e' h => hfirst q hq e' ?_⟩
    exact (faultAt_append_iff (hq.trans hp)).mp h

theorem exists_firstFaultAt (h : FaultAt config devices p e) :
    ∃ q e', FirstFaultAt config devices q e' := by
  obtain ⟨q, e', hfault, hfirst⟩ := exists_first (P := FaultAt config devices) h
  exact ⟨q, e', hfault, hfirst⟩

/-- The entries of a table are those at the positions of the blocks. -/
theorem mem_entries_iff (h : (ofDevices config devices).result = .ok table) :
    entry ∈ table.entries ↔ ∃ q, EntryAt config devices q entry := by
  have hentries := (ofDevices_eq_ok_iff.mp h).1
  constructor
  · intro hentry
    obtain ⟨record, hrecord, hencodes⟩ := exists_of_mem_right hentries hentry
    obtain ⟨q, hq⟩ := List.getElem?_of_mem (Device.mem_blocks_iff.mp hrecord)
    exact ⟨q, record, hq, hencodes⟩
  · intro h
    obtain ⟨q, record, hq, hencodes⟩ := h
    have hrecord := Device.mem_blocks_iff.mpr (List.mem_of_getElem? hq)
    obtain ⟨entry', hentry', hencodes'⟩ := exists_of_mem_left hentries hrecord
    rw [hencodes, Except.ok.injEq] at hencodes'
    exact hencodes' ▸ hentry'

/-- The fault of a device behind a list that has a table. -/
theorem addDevice_eq_error_iff {device : Device}
    (h : (ofDevices config devices).result = .ok table) :
    (addDevice config table device).result = .error e ↔
      FaultAt config (devices ++ [device]) devices.length e := by
  have hat : (devices ++ [device])[devices.length]? = some device := by simp
  have hmem : ∀ entry : Entry, entry.identifier ∈ table.identifiers ↔
      ∃ q earlier, q < devices.length ∧ EntryAt config (devices ++ [device]) q earlier ∧
        earlier.identifier = entry.identifier := by
    intro entry
    simp only [identifiers, List.mem_map, mem_entries_iff h]
    constructor
    · intro h
      obtain ⟨earlier, ⟨q, hq⟩, hid⟩ := h
      exact ⟨q, earlier, hq.lt, (entryAt_append_iff hq.lt).mpr hq, hid⟩
    · intro h
      obtain ⟨q, earlier, hq, hearlier, hid⟩ := h
      exact ⟨earlier, ⟨q, (entryAt_append_iff hq).mp hearlier⟩, hid⟩
  cases device with
  | skipped kind name =>
    rw [addDevice_skipped_result]
    refine ⟨nofun, ?_⟩
    rintro (⟨hblock, -⟩ | ⟨⟨_, hblock, -⟩, -, -, -⟩) <;> cases hat.symm.trans hblock
  | block record =>
    rw [addDevice_block_eq_error_iff]
    constructor
    · intro h
      obtain he | ⟨entry, hentry, hused, rfl⟩ := h
      · exact .encoding hat he
      · obtain ⟨q, earlier, hq, hearlier, hid⟩ := (hmem entry).mp hused
        exact .duplicate ⟨record, hat, hentry⟩ hq hearlier hid
    · intro h
      obtain ⟨hblock, he⟩ | ⟨⟨record', hblock, hentry⟩, hq, hearlier, hid⟩ := h
      · cases hat.symm.trans hblock
        exact .inl he
      · cases hat.symm.trans hblock
        exact .inr ⟨_, hentry, (hmem _).mpr ⟨_, _, hq, hearlier, hid⟩, rfl⟩

/-- A list has no table if and only if something is wrong with one of its blocks, and the first
such block decides the error. -/
theorem ofDevices_eq_error_iff : (ofDevices config devices).result = .error e ↔
    ∃ p, FirstFaultAt config devices p e := by
  induction devices using List.reverseRecOn generalizing e with
  | nil =>
    refine ⟨nofun, ?_⟩
    intro h
    obtain ⟨p, hfault, -⟩ := h
    exact absurd hfault.lt (Nat.not_lt_zero p)
  | append_singleton devices device ih =>
    rw [ofDevices_concat, Run.bind_result_eq_error_iff, ih]
    constructor
    · intro h
      obtain ⟨p, hp⟩ | ⟨table, htable, hstep⟩ := h
      · exact ⟨p, (firstFaultAt_append_iff hp.fault.lt).mpr hp⟩
      · refine ⟨devices.length, (addDevice_eq_error_iff htable).mp hstep, fun q hq e' h => ?_⟩
        obtain ⟨r, e'', hr⟩ := exists_firstFaultAt ((faultAt_append_iff hq).mp h)
        cases (ih.mpr ⟨r, hr⟩).symm.trans htable
    · intro h
      obtain ⟨p, hp⟩ := h
      have hlt := hp.fault.lt
      rw [List.length_append, List.length_singleton, Nat.lt_succ_iff_lt_or_eq] at hlt
      rcases hlt with hlt | rfl
      · exact .inl ⟨p, (firstFaultAt_append_iff hlt).mp hp⟩
      · right
        cases htable : (ofDevices config devices).result with
        | ok table => exact ⟨table, rfl, (addDevice_eq_error_iff htable).mpr hp.fault⟩
        | error e' =>
          obtain ⟨q, hq⟩ := ih.mp htable
          exact absurd ((faultAt_append_iff hq.fault.lt).mpr hq.fault)
            (hp.first q hq.fault.lt e')

theorem not_faultAt_of_ok (h : (ofDevices config devices).result = .ok table) :
    ¬FaultAt config devices p e := by
  intro hfault
  obtain ⟨q, e', hfirst⟩ := exists_firstFaultAt hfault
  cases (ofDevices_eq_error_iff.mpr ⟨q, hfirst⟩).symm.trans h

/-- The devices before the first fault have a table. -/
theorem FirstFaultAt.exists_table (h : FirstFaultAt config devices p e) :
    ∃ table, (ofDevices config (devices.take p)).result = .ok table := by
  cases hresult : (ofDevices config (devices.take p)).result with
  | ok table => exact ⟨table, rfl⟩
  | error e' =>
    obtain ⟨q, hq, -⟩ := ofDevices_eq_error_iff.mp hresult
    have hlt := hq.lt
    have hq' : FaultAt config (devices.take p ++ devices.drop p) q e' :=
      (faultAt_append_iff hlt).mpr hq
    rw [List.take_append_drop] at hq'
    rw [List.length_take] at hlt
    exact absurd hq' (h.first q (by omega) e')

/-- Nothing behind the device that decides the error has any part in what is reported. -/
theorem ofDevices_append_of_error (h : (ofDevices config xs).result = .error e) :
    ofDevices config (xs ++ ys) = ofDevices config xs := by
  rw [ofDevices_append, Run.bind_of_error h, ← h]

/-- A device list may be exchanged behind the device that decides the error. -/
theorem FirstFaultAt.ofDevices_take_append (h : FirstFaultAt config devices p e)
    (after : List Device) :
    ofDevices config (devices.take (p + 1) ++ after) = ofDevices config devices := by
  have hp : p < (devices.take (p + 1)).length := by
    rw [List.length_take]
    have := h.fault.lt
    omega
  have hsplit := List.take_append_drop (p + 1) devices
  have hfirst : FirstFaultAt config (devices.take (p + 1)) p e := by
    rw [← hsplit] at h
    exact (firstFaultAt_append_iff hp).mp h
  have herror := ofDevices_eq_error_iff.mpr ⟨p, hfirst⟩
  calc ofDevices config (devices.take (p + 1) ++ after)
    _ = ofDevices config (devices.take (p + 1)) := ofDevices_append_of_error herror
    _ = ofDevices config (devices.take (p + 1) ++ devices.drop (p + 1)) :=
      (ofDevices_append_of_error herror).symm
    _ = ofDevices config devices := by rw [hsplit]

/-- Which table a device list has, and which error is reported if it has none. -/
theorem ofDevices_spec (config : Config) (devices : List Device) :
    (∀ table, (ofDevices config devices).result = .ok table ↔
      List.Forall₂ (fun record entry => (Entry.ofRecord config record).result = .ok entry)
        (Device.blocks devices) table.entries ∧ table.identifiers.Nodup) ∧
    (∀ table, (ofDevices config devices).result = .ok table →
      table.enumerationLength = (Device.blocks devices).length + 1) ∧
    (∀ e, (ofDevices config devices).result = .error e ↔ ∃ p, FirstFaultAt config devices p e) ∧
    (∀ p e, FirstFaultAt config devices p e → ∀ after,
      ofDevices config (devices.take (p + 1) ++ after) = ofDevices config devices) := by
  refine ⟨fun table => ofDevices_eq_ok_iff, fun table h => ?_, fun e => ofDevices_eq_error_iff,
    fun p e h after => h.ofDevices_take_append after⟩
  rw [enumerationLength, (ofDevices_eq_ok_iff.mp h).1.length_eq]

theorem ofDevices_spec_serialPorts :
    (∃ table, (ofDevices {} (Device.serialPorts ["usart-1", "uart4"])).result = .ok table ∧
      table.enumerationLength = 3) ∧
    (ofDevices {} (Device.serialPorts ["usart-1", "USART_1", "4th"])).result =
      .error (.duplicateIdentifier "USART_1") ∧
    ofDevices {} (Device.serialPorts ["usart-1", "USART_1"]) =
      ofDevices {} (Device.serialPorts ["usart-1", "USART_1", "4th"]) := by
  obtain ⟨-, hlength, -, -⟩ := ofDevices_spec {} (Device.serialPorts ["usart-1", "uart4"])
  obtain ⟨-, -, herror, hprefix⟩ :=
    ofDevices_spec {} (Device.serialPorts ["usart-1", "USART_1", "4th"])
  have hat : ∀ p < 2, EntryAt {} (Device.serialPorts ["usart-1", "USART_1", "4th"]) p
      (.serialPort "USART_1")
    | 0, _ => ⟨_, rfl, rfl⟩
    | 1, _ => ⟨_, rfl, rfl⟩
  have hfirst : FirstFaultAt {} (Device.serialPorts ["usart-1", "USART_1", "4th"]) 1
      (.duplicateIdentifier "USART_1") := by
    refine ⟨.duplicate (hat 1 (by decide)) Nat.one_pos (hat 0 (by decide)) rfl, ?_⟩
    rintro q hq e (⟨hblock, he⟩ | ⟨-, hearlier, -, -⟩)
    · obtain ⟨record, hrecord, hok⟩ := hat q (by omega)
      cases hrecord.symm.trans hblock
      cases hok.symm.trans he
    · omega
  exact ⟨⟨⟨[.serialPort "USART_1", .serialPort "UART4"]⟩, rfl, hlength _ rfl⟩,
    (herror _).mpr ⟨1, hfirst⟩, hprefix 1 _ hfirst []⟩

end Table
end PeriphMap
