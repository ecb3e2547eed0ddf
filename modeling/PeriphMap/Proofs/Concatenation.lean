import PeriphMap.Proofs.Tables

/-! Device lists put behind one another. What was reported and entered for the first list stays as
it is, and the second list fails at the first of its blocks that has a fault of its own or an
identifier of the first list. -/

namespace PeriphMap
namespace Table

variable {config : Config} {xs ys : List Device} {table table' : Table} {entry : Entry} {e : Error}
  {p q : Nat} {identifier : String}

/-! ## What is kept -/

theorem entries_prefix_of_addDevice {device : Device}
    (h : (addDevice config table device).result = .ok table') :
    table.entries <+: table'.entries := by
  cases device with
  | skipped kind name =>
    cases h
    exact List.prefix_rfl
  | block record =>
    obtain ⟨entry, -, -, rfl⟩ := addDevice_block_eq_ok_iff.mp h
    exact List.prefix_append _ _

/-- Entries keep their places, whatever is added behind them. -/
theorem entries_prefix_of_foldlM (h : (ys.foldlM (addDevice config) table).result = .ok table') :
    table.entries <+: table'.entries := by
  induction ys generalizing table with
  | nil =>
    cases h
    exact List.prefix_rfl
  | cons device ys ih =>
    rw [List.foldlM_cons, Run.bind_result_eq_ok_iff] at h
    obtain ⟨middle, hfirst, hrest⟩ := h
    exact (entries_prefix_of_addDevice hfirst).trans (ih hrest)

theorem entries_prefix_of_append (h : (ofDevices config (xs ++ ys)).result = .ok table') :
    ∃ table, (ofDevices config xs).result = .ok table ∧ table.entries <+: table'.entries := by
  rw [ofDevices_append, Run.bind_result_eq_ok_iff] at h
  obtain ⟨table, hfirst, hrest⟩ := h
  exact ⟨table, hfirst, entries_prefix_of_foldlM hrest⟩

/-- What was reported stays reported, whether or not the devices behind it can be added. -/
theorem events_prefix_append :
    (ofDevices config xs).events <+: (ofDevices config (xs ++ ys)).events := by
  rw [ofDevices_append]
  cases h : (ofDevices config xs).result with
  | ok table =>
    rw [Run.bind_of_ok h]
    exact List.prefix_append _ _
  | error e =>
    rw [Run.bind_of_error h]

/-! ## Tables without common identifiers -/

theorem ofDevices_append_of_disjoint (h : (ofDevices config xs).result = .ok table)
    (h' : (ofDevices config ys).result = .ok table')
    (hdisjoint : table.identifiers.Disjoint table'.identifiers) :
    (ofDevices config (xs ++ ys)).result = .ok ⟨table.entries ++ table'.entries⟩ := by
  obtain ⟨hentries, hnodup⟩ := ofDevices_eq_ok_iff.mp h
  obtain ⟨hentries', hnodup'⟩ := ofDevices_eq_ok_iff.mp h'
  apply ofDevices_eq_ok_iff.mpr
  rw [Device.blocks_append, identifiers, List.map_append]
  exact ⟨List.rel_append hentries hentries', hnodup.append hnodup' hdisjoint⟩

/-! ## The first fault of the second list -/

/-- The block at position `q` has an identifier that the table has already. -/
def ClashAt (config : Config) (table : Table) (devices : List Device) (q : Nat)
    (identifier : String) : Prop :=
  identifier ∈ table.identifiers ∧
    ∃ entry, EntryAt config devices q entry ∧ entry.identifier = identifier

/-- The least position with such an identifier. -/
structure FirstClashAt (config : Config) (table : Table) (devices : List Device) (q : Nat)
    (identifier : String) : Prop where
  clash : ClashAt config table devices q identifier
  first : ∀ r < q, ∀ identifier', ¬ClashAt config table devices r identifier'

theorem exists_firstClashAt (h : ClashAt config table ys q identifier) :
    ∃ r identifier', FirstClashAt config table ys r identifier' := by
  obtain ⟨r, identifier', hclash, hfirst⟩ := exists_first (P := ClashAt config table ys) h
  exact ⟨r, identifier', hclash, hfirst⟩

theorem entryAt_append_right_iff :
    EntryAt config (xs ++ ys) (xs.length + p) entry ↔ EntryAt config ys p entry := by
  simp only [EntryAt, List.getElem?_append_right (Nat.le_add_right ..), Nat.add_sub_cancel_left]

theorem mem_identifiers_iff (h : (ofDevices config xs).result = .ok table) :
    identifier ∈ table.identifiers ↔
      ∃ q entry, EntryAt config xs q entry ∧ entry.identifier = identifier := by
  simp only [identifiers, List.mem_map, mem_entries_iff h]
  constructor
  · rintro ⟨entry, ⟨q, hq⟩, hid⟩
    exact ⟨q, entry, hq, hid⟩
  · rintro ⟨q, entry, hq, hid⟩
    exact ⟨entry, ⟨q, hq⟩, hid⟩

/-- Behind a list that has a table, a block may have the faults that it has without that list, or
clash with the table. -/
theorem faultAt_append_right_iff (h : (ofDevices config xs).result = .ok table) :
    FaultAt config (xs ++ ys) (xs.length + p) e ↔
      FaultAt config ys p e ∨
        ∃ identifier, ClashAt config table ys p identifier ∧ .duplicateIdentifier identifier = e := by
  have hat : (xs ++ ys)[xs.length + p]? = ys[p]? := by
    rw [List.getElem?_append_right (Nat.le_add_right ..), Nat.add_sub_cancel_left]
  constructor
  · intro hfault
    cases hfault with
    | encoding hblock he => exact .inl (.encoding (hat ▸ hblock) he)
    | @duplicate q entry earlier hentry hq hearlier hid =>
      rw [entryAt_append_right_iff] at hentry
      rcases Nat.lt_or_ge q xs.length with hlt | hge
      · rw [entryAt_append_iff hlt] at hearlier
        refine .inr ⟨entry.identifier, ⟨?_, entry, hentry, rfl⟩, rfl⟩
        exact (mem_identifiers_iff h).mpr ⟨q, earlier, hearlier, hid⟩
      · obtain ⟨r, rfl⟩ := Nat.exists_eq_add_of_le hge
        rw [entryAt_append_right_iff] at hearlier
        exact .inl (.duplicate hentry (Nat.lt_of_add_lt_add_left hq) hearlier hid)
  · rintro ((⟨hblock, he⟩ | ⟨hentry, hq, hearlier, hid⟩) | ⟨_, ⟨hmem, entry, hentry, rfl⟩, rfl⟩)
    · exact .encoding (hat.trans hblock) he
    · exact .duplicate (entryAt_append_right_iff.mpr hentry) (Nat.add_lt_add_left hq _)
        (entryAt_append_right_iff.mpr hearlier) hid
    · obtain ⟨q, earlier, hearlier, hid⟩ := (mem_identifiers_iff h).mp hmem
      exact .duplicate (entryAt_append_right_iff.mpr hentry)
        (hearlier.lt.trans_le (Nat.le_add_right ..))
        ((entryAt_append_iff hearlier.lt).mpr hearlier) hid

theorem firstFaultAt_append_right (h : (ofDevices config xs).result = .ok table)
    (hfault : FaultAt config (xs ++ ys) (xs.length + p) e)
    (hfaults : ∀ r < p, ∀ e', ¬FaultAt config ys r e')
    (hclashes : ∀ r < p, ∀ identifier, ¬ClashAt config table ys r identifier) :
    FirstFaultAt config (xs ++ ys) (xs.length + p) e := by
  refine ⟨hfault, fun q hq e' hearlier => ?_⟩
  rcases Nat.lt_or_ge q xs.length with hlt | hge
  · exact not_faultAt_of_ok h ((faultAt_append_iff hlt).mp hearlier)
  · obtain ⟨r, rfl⟩ := Nat.exists_eq_add_of_le hge
    have hr : r < p := Nat.lt_of_add_lt_add_left hq
    rcases (faultAt_append_right_iff h).mp hearlier with hown | ⟨identifier, hclash, -⟩
    · exact hfaults r hr e' hown
    · exact hclashes r hr identifier hclash

theorem FirstFaultAt.le_of_faultAt (h : FirstFaultAt config ys p e) {e' : Error}
    (hfault : FaultAt config ys q e') : p ≤ q :=
  Nat.le_of_not_lt fun hq => h.first q hq e' hfault

/-- A clash that comes before the faults of the second list decides the error. -/
theorem ofDevices_append_of_clash (h : (ofDevices config xs).result = .ok table)
    (hclash : FirstClashAt config table ys q identifier)
    (hbefore : ∀ p e, FirstFaultAt config ys p e → q < p) :
    (ofDevices config (xs ++ ys)).result = .error (.duplicateIdentifier identifier) := by
  refine ofDevices_eq_error_iff.mpr ⟨xs.length + q, firstFaultAt_append_right h ?_ ?_ hclash.first⟩
  · exact (faultAt_append_right_iff h).mpr (.inr ⟨identifier, hclash.clash, rfl⟩)
  · intro r hr e' hfault
    obtain ⟨p, e, hfirst⟩ := exists_firstFaultAt hfault
    have := hbefore p e hfirst
    have := hfirst.le_of_faultAt hfault
    omega

/-- A fault of the second list that comes before all clashes decides the error. -/
theorem ofDevices_append_of_fault (h : (ofDevices config xs).result = .ok table)
    (hfault : FirstFaultAt config ys p e)
    (hafter : ∀ q identifier, FirstClashAt config table ys q identifier → ¬q < p) :
    (ofDevices config (xs ++ ys)).result = .error e := by
  refine ofDevices_eq_error_iff.mpr ⟨xs.length + p, firstFaultAt_append_right h ?_ hfault.first ?_⟩
  · exact (faultAt_append_right_iff h).mpr (.inl hfault.fault)
  · intro r hr identifier hclash
    obtain ⟨q, identifier', hfirst⟩ := exists_firstClashAt hclash
    have hq : q ≤ r := Nat.le_of_not_lt fun hlt => hfirst.first r hlt identifier hclash
    exact hafter q identifier' hfirst (hq.trans_lt hr)

/-- The run of two lists put behind one another, from the runs of the lists. -/
theorem ofDevices_append_outcome (config : Config) (xs ys : List Device) :
    (∀ e, (ofDevices config xs).result = .error e →
      ofDevices config (xs ++ ys) = ofDevices config xs) ∧
    (∀ table table', (ofDevices config xs).result = .ok table →
      (ofDevices config ys).result = .ok table' →
      table.identifiers.Disjoint table'.identifiers →
      (ofDevices config (xs ++ ys)).result = .ok ⟨table.entries ++ table'.entries⟩) ∧
    (∀ table q identifier, (ofDevices config xs).result = .ok table →
      FirstClashAt config table ys q identifier →
      (∀ p e, FirstFaultAt config ys p e → q < p) →
      (ofDevices config (xs ++ ys)).result = .error (.duplicateIdentifier identifier)) ∧
    (∀ table p e, (ofDevices config xs).result = .ok table → FirstFaultAt config ys p e →
      (∀ q identifier, FirstClashAt config table ys q identifier → ¬q < p) →
      (ofDevices config ys).result = .error e ∧
        (ofDevices config (xs ++ ys)).result = .error e) ∧
    (ofDevices config xs).events <+: (ofDevices config (xs ++ ys)).events ∧
    (∀ table', (ofDevices config (xs ++ ys)).result = .ok table' →
      ∃ table, (ofDevices config xs).result = .ok table ∧ table.entries <+: table'.entries) := by
  refine ⟨?_, ?_, ?_, ?_, events_prefix_append, ?_⟩
  · intro e h
    exact ofDevices_append_of_error h
  · intro table table' h h' hdisjoint
    exact ofDevices_append_of_disjoint h h' hdisjoint
  · intro table q identifier h hclash hbefore
    exact ofDevices_append_of_clash h hclash hbefore
  · intro table p e h hfault hafter
    exact ⟨ofDevices_eq_error_iff.mpr ⟨p, hfault⟩, ofDevices_append_of_fault h hfault hafter⟩
  · intro table' h
    exact entries_prefix_of_append h

/-- A clash before a fault, a fault before a clash, neither of them, and a fault of the first
list. -/
theorem ofDevices_append_outcome_serialPorts :
    (ofDevices {} (Device.serialPorts ["usart-1"] ++
        Device.serialPorts ["uart4", "usart_1", "4th"])).result =
      .error (.duplicateIdentifier "USART_1") ∧
    (ofDevices {} (Device.serialPorts ["usart-1"] ++
        Device.serialPorts ["4th", "usart_1"])).result =
      .error (.invalidIdentifier ⟨"4TH", .firstCharacter⟩) ∧
    (ofDevices {} (Device.serialPorts ["usart-1"] ++ Device.serialPorts ["uart4"])).result =
      .ok ⟨[.serialPort "USART_1"] ++ [.serialPort "UART4"]⟩ ∧
    ofDevices {} (Device.serialPorts ["4th"] ++ Device.serialPorts ["uart4"]) =
      ofDevices {} (Device.serialPorts ["4th"]) := by
  have hfirst : (ofDevices {} (Device.serialPorts ["usart-1"])).result =
      .ok ⟨[.serialPort "USART_1"]⟩ := rfl
  obtain ⟨-, -, hclash, -, -, -⟩ := ofDevices_append_outcome {} (Device.serialPorts ["usart-1"])
    (Device.serialPorts ["uart4", "usart_1", "4th"])
  obtain ⟨-, -, -, hfault, -, -⟩ := ofDevices_append_outcome {} (Device.serialPorts ["usart-1"])
    (Device.serialPorts ["4th", "usart_1"])
  obtain ⟨-, hdisjoint, -, -, -, -⟩ := ofDevices_append_outcome {}
    (Device.serialPorts ["usart-1"]) (Device.serialPorts ["uart4"])
  obtain ⟨herror, -, -, -, -, -⟩ := ofDevices_append_outcome {} (Device.serialPorts ["4th"])
    (Device.serialPorts ["uart4"])
  refine ⟨hclash _ 1 _ hfirst ⟨⟨List.mem_singleton_self _, _, ⟨_, rfl, rfl⟩, rfl⟩, ?_⟩ ?_,
    (hfault _ 0 _ hfirst ⟨.encoding rfl rfl, nofun⟩ fun q _ _ => Nat.not_lt_zero q).2,
    hdisjoint _ _ hfirst rfl (List.disjoint_singleton.mpr (by decide)), herror _ rfl⟩
  · rintro r hr identifier ⟨hmem, entry, ⟨record, hat, hentry⟩, rfl⟩
    obtain rfl : r = 0 := by omega
    cases hat
    cases hentry
    exact absurd hmem (by decide)
  · intro p e hp
    by_contra hle
    have hbefore : (ofDevices {} (Device.serialPorts ["uart4", "usart_1"])).result =
        .ok ⟨[.serialPort "UART4", .serialPort "USART_1"]⟩ := rfl
    refine not_faultAt_of_ok hbefore ((faultAt_append_iff ?_).mp hp.fault)
    exact Nat.lt_succ_of_le (Nat.le_of_not_lt hle)

end Table
end PeriphMap
