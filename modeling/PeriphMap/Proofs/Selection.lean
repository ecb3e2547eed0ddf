import PeriphMap.Proofs.Tables

/-! Devices picked out of a list that has a table, in any order. The blocks keep their entries, and
the only thing that can go wrong is that a block is picked twice. -/

namespace PeriphMap

section Lists

variable {α β : Type} {R : α → β → Prop} {xs xs' : List α} {ys : List β}

theorem exists_forall₂_of_sublist (h : List.Forall₂ R xs ys) (hsub : xs'.Sublist xs) :
    ∃ ys', List.Forall₂ R xs' ys' ∧ ys'.Sublist ys := by
  induction hsub generalizing ys with
  | slnil =>
    cases h
    exact ⟨[], .nil, .slnil⟩
  | cons x _ ih =>
    cases h with
    | cons _ hrest =>
      obtain ⟨ys', hys', hsub'⟩ := ih hrest
      exact ⟨ys', hys', hsub'.cons _⟩
  | cons_cons x _ ih =>
    cases h with
    | cons hxy hrest =>
      obtain ⟨ys', hys', hsub'⟩ := ih hrest
      exact ⟨_, .cons hxy hys', hsub'.cons_cons _⟩

/-- What is not without repetition repeats something for the first time. -/
theorem exists_first_repeat {P : α → Bool} (h : ¬(xs.filter P).Nodup) :
    ∃ before x after, xs = before ++ x :: after ∧ (before.filter P).Nodup ∧ P x ∧ x ∈ before := by
  induction xs using List.reverseRecOn with
  | nil => exact absurd List.nodup_nil h
  | append_singleton xs x ih =>
    by_cases hnodup : (xs.filter P).Nodup
    · have hx : P x ∧ x ∈ xs := by
        by_contra hnew
        apply h
        rw [List.filter_append]
        refine hnodup.append ((List.nodup_singleton x).filter P) fun y hy hy' => hnew ?_
        rw [List.mem_filter, List.mem_singleton] at hy'
        obtain ⟨rfl, hP⟩ := hy'
        exact ⟨hP, (List.mem_filter.mp hy).1⟩
      exact ⟨xs, x, [], rfl, hnodup, hx⟩
    · obtain ⟨before, y, after, rfl, hbefore⟩ := ih hnodup
      exact ⟨before, y, after ++ [x], by simp, hbefore⟩

end Lists

/-! ## Blocks at positions -/

namespace Device

variable {devices : List Device} {record : Record} {p : Nat} {positions : List Nat}

/-- The record of the block at a position. -/
def blockAt? (devices : List Device) (p : Nat) : Option Record :=
  devices[p]?.bind record?

theorem blockAt?_eq_some_iff : blockAt? devices p = some record ↔
    devices[p]? = some (block record) := by
  rw [blockAt?, Option.bind_eq_some_iff]
  constructor
  · rintro ⟨_ | _, hat, hrecord⟩
    · cases hrecord
      exact hat
    · contradiction
  · intro hat
    exact ⟨_, hat, rfl⟩

/-- No block is picked twice. -/
def PicksOnce (devices : List Device) (positions : List Nat) : Prop :=
  (positions.filter fun p => (blockAt? devices p).isSome).Nodup

/-- The first block that is picked again is the one at position `p`. -/
def FirstPickedAgain (devices : List Device) (positions : List Nat) (p : Nat) : Prop :=
  ∃ before after, positions = before ++ p :: after ∧ PicksOnce devices before ∧
    (blockAt? devices p).isSome ∧ p ∈ before

theorem exists_firstPickedAgain (h : ¬PicksOnce devices positions) :
    ∃ p, FirstPickedAgain devices positions p := by
  obtain ⟨before, p, after, hsplit, hbefore⟩ := exists_first_repeat h
  exact ⟨p, before, after, hsplit, hbefore⟩

theorem blocks_pick (devices : List Device) (positions : List Nat) :
    blocks (pick devices positions) = positions.filterMap (blockAt? devices) :=
  List.filterMap_filterMap

/-- The blocks before a position, the block there, and the blocks behind it. -/
theorem blocks_split (h : devices[p]? = some (block record)) :
    blocks devices = blocks (devices.take p) ++ record :: blocks (devices.drop (p + 1)) := by
  obtain ⟨hp, hat⟩ := List.getElem?_eq_some_iff.mp h
  conv_lhs => rw [← List.take_append_drop p devices, List.drop_eq_getElem_cons hp, hat]
  exact blocks_append

end Device

namespace Table

variable {config : Config} {devices : List Device} {table : Table} {entry entry' : Entry}
  {p q : Nat} {positions : List Nat}

/-! ## Entries at positions -/

/-- The entry of a table for the block at a position of its list. -/
def entryOf? (table : Table) (devices : List Device) (p : Nat) : Option Entry :=
  (Device.blockAt? devices p).bind fun _ =>
    table.entries[(Device.blocks (devices.take p)).length]?

theorem entryOf?_rel (h : (ofDevices config devices).result = .ok table) (p : Nat) :
    Option.Rel (fun record entry => (Entry.ofRecord config record).result = .ok entry)
      (Device.blockAt? devices p) (table.entryOf? devices p) := by
  unfold entryOf?
  cases hblock : Device.blockAt? devices p with
  | none => exact .none
  | some record =>
    obtain ⟨hlength, hget⟩ := List.forall₂_iff_get.mp (ofDevices_eq_ok_iff.mp h).1
    have hsplit := Device.blocks_split (Device.blockAt?_eq_some_iff.mp hblock)
    have hlt : (Device.blocks (devices.take p)).length < (Device.blocks devices).length := by
      rw [hsplit, List.length_append, List.length_cons]
      omega
    rw [Option.bind_some, List.getElem?_eq_getElem (hlength ▸ hlt)]
    refine .some ?_
    have hentry := hget _ hlt (hlength ▸ hlt)
    simpa [hsplit] using hentry

theorem entryOf?_eq_some_iff (h : (ofDevices config devices).result = .ok table) :
    table.entryOf? devices p = some entry ↔ EntryAt config devices p entry := by
  have hrel := entryOf?_rel h p
  simp only [EntryAt, ← Device.blockAt?_eq_some_iff]
  generalize Device.blockAt? devices p = block, table.entryOf? devices p = found at hrel ⊢
  cases hrel with
  | some hresult => simp [hresult]
  | none => simp

theorem entryOf?_of_block (h : (ofDevices config devices).result = .ok table)
    (hblock : (Device.blockAt? devices p).isSome) :
    ∃ entry, table.entryOf? devices p = some entry := by
  have hrel := entryOf?_rel h p
  generalize Device.blockAt? devices p = block, table.entryOf? devices p = found at hrel hblock ⊢
  cases hrel with
  | some _ => exact ⟨_, rfl⟩
  | none => contradiction

/-- Different blocks of a list that has a table have different identifiers. -/
theorem EntryAt.position_unique (h : (ofDevices config devices).result = .ok table)
    (hentry : EntryAt config devices p entry) (hentry' : EntryAt config devices q entry')
    (hid : entry.identifier = entry'.identifier) : p = q := by
  rcases Nat.lt_trichotomy p q with hlt | heq | hgt
  · exact absurd (.duplicate hentry' hlt hentry hid) (not_faultAt_of_ok h)
  · exact heq
  · exact absurd (.duplicate hentry hgt hentry' hid.symm) (not_faultAt_of_ok h)

/-! ## Picking -/

theorem filterMap_entryOf? (table : Table) (devices : List Device) (positions : List Nat) :
    (positions.filter fun p => (Device.blockAt? devices p).isSome).filterMap
      (table.entryOf? devices) = positions.filterMap (table.entryOf? devices) := by
  rw [List.filterMap_filter]
  refine List.filterMap_congr fun p _ => ?_
  cases hblock : Device.blockAt? devices p <;> simp [entryOf?, hblock]

theorem nodup_identifiers_of_picksOnce (h : (ofDevices config devices).result = .ok table)
    (honce : Device.PicksOnce devices positions) :
    ((positions.filterMap (table.entryOf? devices)).map (·.identifier)).Nodup := by
  rw [← filterMap_entryOf?, List.map_filterMap]
  refine honce.filterMap fun p q identifier hp hq => ?_
  obtain ⟨entry, hentry, rfl⟩ := Option.map_eq_some_iff.mp hp
  obtain ⟨entry', hentry', hid⟩ := Option.map_eq_some_iff.mp hq
  rw [entryOf?_eq_some_iff h] at hentry hentry'
  exact hentry.position_unique h hentry' hid.symm

theorem ofDevices_pick_of_picksOnce (h : (ofDevices config devices).result = .ok table)
    (honce : Device.PicksOnce devices positions) :
    (ofDevices config (Device.pick devices positions)).result =
      .ok ⟨positions.filterMap (table.entryOf? devices)⟩ := by
  refine ofDevices_eq_ok_iff.mpr ⟨?_, nodup_identifiers_of_picksOnce h honce⟩
  rw [Device.blocks_pick]
  apply List.rel_filterMap (R := Eq)
  · rintro p _ rfl
    exact entryOf?_rel h p
  · exact List.forall₂_refl positions

theorem ofDevices_pick_of_firstPickedAgain (h : (ofDevices config devices).result = .ok table)
    (hagain : Device.FirstPickedAgain devices positions p)
    (hentry : table.entryOf? devices p = some entry) :
    (ofDevices config (Device.pick devices positions)).result =
      .error (.duplicateIdentifier entry.identifier) := by
  obtain ⟨before, after, rfl, honce, -, hmem⟩ := hagain
  obtain ⟨record, hat, hresult⟩ := (entryOf?_eq_some_iff h).mp hentry
  have hsplit : Device.pick devices (before ++ p :: after) =
      (Device.pick devices before ++ [.block record]) ++ Device.pick devices after := by
    simp [Device.pick, List.filterMap_append, hat]
  have hused : entry.identifier ∈
      (Table.mk (before.filterMap (table.entryOf? devices))).identifiers :=
    List.mem_map_of_mem (List.mem_filterMap.mpr ⟨p, hmem, hentry⟩)
  have herror : (ofDevices config (Device.pick devices before ++ [.block record])).result =
      .error (.duplicateIdentifier entry.identifier) := by
    rw [ofDevices_concat, Run.bind_result_eq_error_iff]
    refine .inr ⟨_, ofDevices_pick_of_picksOnce h honce, ?_⟩
    exact addDevice_block_eq_error_iff.mpr (.inr ⟨entry, hresult, hused, rfl⟩)
  rw [hsplit, ofDevices_append_of_error herror, herror]

/-! ## Rearranging -/

theorem exists_ofDevices_of_perm {picked : List Device}
    (h : (ofDevices config devices).result = .ok table) (hperm : picked.Perm devices) :
    ∃ table', (ofDevices config picked).result = .ok table' ∧
      table'.entries.Perm table.entries := by
  obtain ⟨hentries, hnodup⟩ := ofDevices_eq_ok_iff.mp h
  obtain ⟨entries, hentries', hperm'⟩ := List.perm_comp_forall₂ (hperm.filterMap _) hentries
  refine ⟨⟨entries⟩, ofDevices_eq_ok_iff.mpr ⟨hentries', ?_⟩, hperm'⟩
  exact (hperm'.map _).nodup_iff.mpr hnodup

theorem exists_ofDevices_of_sublist {picked : List Device}
    (h : (ofDevices config devices).result = .ok table) (hsub : picked.Sublist devices) :
    ∃ table', (ofDevices config picked).result = .ok table' ∧
      table'.entries.Sublist table.entries := by
  obtain ⟨hentries, hnodup⟩ := ofDevices_eq_ok_iff.mp h
  obtain ⟨entries, hentries', hsub'⟩ := exists_forall₂_of_sublist hentries (hsub.filterMap _)
  refine ⟨⟨entries⟩, ofDevices_eq_ok_iff.mpr ⟨hentries', ?_⟩, hsub'⟩
  exact (hsub'.map _).nodup hnodup

/-- Devices of a list that has a table have a table of their own, with the same entries, unless a
block is picked twice: then the first block that is picked again decides the error. -/
theorem ofDevices_pick_outcome (h : (ofDevices config devices).result = .ok table) :
    (∀ positions, Device.PicksOnce devices positions →
      (ofDevices config (Device.pick devices positions)).result =
        .ok ⟨positions.filterMap (table.entryOf? devices)⟩) ∧
    (∀ positions, ¬Device.PicksOnce devices positions →
      ∃ p entry, Device.FirstPickedAgain devices positions p ∧
        table.entryOf? devices p = some entry ∧
        (ofDevices config (Device.pick devices positions)).result =
          .error (.duplicateIdentifier entry.identifier)) ∧
    (∀ picked, picked.Perm devices → ∃ table',
      (ofDevices config picked).result = .ok table' ∧ table'.entries.Perm table.entries) ∧
    (∀ picked, picked.Sublist devices → ∃ table',
      (ofDevices config picked).result = .ok table' ∧
        table'.entries.Sublist table.entries) := by
  refine ⟨?_, ?_, ?_, ?_⟩
  · intro positions honce
    exact ofDevices_pick_of_picksOnce h honce
  · intro positions htwice
    obtain ⟨p, hagain⟩ := Device.exists_firstPickedAgain htwice
    have ⟨_, _, _, _, hblock, _⟩ := hagain
    obtain ⟨entry, hentry⟩ := entryOf?_of_block h hblock
    exact ⟨p, entry, hagain, hentry, ofDevices_pick_of_firstPickedAgain h hagain hentry⟩
  · intro picked hperm
    exact exists_ofDevices_of_perm h hperm
  · intro picked hsub
    exact exists_ofDevices_of_sublist h hsub

/-- Two blocks with a clock between them. The clock may be picked as often as one likes, the blocks
not. -/
theorem ofDevices_pick_outcome_serialPorts :
    let devices := Device.serialPorts ["usart-1"] ++ .skipped "clock" none ::
      Device.serialPorts ["uart4"]
    (ofDevices {} devices).result = .ok ⟨[.serialPort "USART_1", .serialPort "UART4"]⟩ ∧
    (ofDevices {} (Device.pick devices [2, 1, 1, 0])).result =
      .ok ⟨[.serialPort "UART4", .serialPort "USART_1"]⟩ ∧
    (∃ (p : Nat) (entry : Entry), Device.FirstPickedAgain devices [2, 0, 1, 2, 0] p ∧
      entry.identifier = "UART4" ∧
      (ofDevices {} (Device.pick devices [2, 0, 1, 2, 0])).result =
        .error (.duplicateIdentifier entry.identifier)) ∧
    ∃ table, (ofDevices {} devices.reverse).result = .ok table ∧
      table.entries.Perm [.serialPort "USART_1", .serialPort "UART4"] := by
  intro devices
  have htable : (ofDevices {} devices).result =
      .ok ⟨[.serialPort "USART_1", .serialPort "UART4"]⟩ := rfl
  obtain ⟨honce, hagain, hperm, -⟩ := ofDevices_pick_outcome htable
  have hfirst : Device.PicksOnce devices [2, 1, 1, 0] := by
    unfold Device.PicksOnce
    decide
  have hsecond : ¬Device.PicksOnce devices [2, 0, 1, 2, 0] := by
    unfold Device.PicksOnce
    decide
  obtain ⟨p, entry, hp, -, herror⟩ := hagain _ hsecond
  have hidentifier : entry.identifier = "UART4" := by
    have hrun : (ofDevices {} (Device.pick devices [2, 0, 1, 2, 0])).result =
        .error (.duplicateIdentifier "UART4") := rfl
    simpa [hrun, eq_comm] using herror
  exact ⟨htable, honce _ hfirst, ⟨p, entry, hp, hidentifier, herror⟩,
    hperm _ (List.reverse_perm devices)⟩

end Table
end PeriphMap
