import PeriphMap.Proofs.Legibility
import PeriphMap.Proofs.Tables

/-! Names that have to fit the name column. Refusing the others instead of cutting them changes a
run only where the first of them is met, and leaves nothing to warn of. -/

namespace PeriphMap

/-- The same options, but for what becomes of names that do not fit. -/
def Config.withStrictNames (config : Config) (strictNames : Bool) : Config :=
  { config with strictNames }

/-! ## Blocks -/

namespace Entry

variable {config : Config} {record : Record} {identifier : String} {strict : Bool} {e : Error}

/-- The identifier of the block does not fit the name column. -/
def IsWide (record : Record) (identifier : String) : Prop :=
  Identifier.ofName record.name = .ok identifier ∧ nameWidth < identifier.length

theorem utf8ByteSize_of_ofName (h : Identifier.ofName record.name = .ok identifier) :
    identifier.utf8ByteSize = identifier.length :=
  (Identifier.ofName_eq_ok_iff.mp h).2.wellFormed.utf8ByteSize_eq

theorem identifierOf_result_eq_ok_iff : (identifierOf record).result = .ok identifier ↔
    Identifier.ofName record.name = .ok identifier := by
  rw [identifierOf, Run.ofExcept_result, mapError_eq_ok_iff]

theorem ofRecord_of_narrow (h : ∀ identifier, ¬IsWide record identifier) :
    ofRecord (config.withStrictNames strict) record = ofRecord config record := by
  unfold ofRecord
  cases hname : (identifierOf record).result with
  | error e => rw [Run.bind_of_error hname, Run.bind_of_error hname]
  | ok identifier =>
    have hok : Identifier.ofName record.name = .ok identifier :=
      identifierOf_result_eq_ok_iff.mp hname
    have hfits : identifier.utf8ByteSize ≤ nameWidth := by
      rw [utf8ByteSize_of_ofName hok]
      exact Nat.le_of_not_lt fun hwide => h identifier ⟨hok, hwide⟩
    have hwidth (config : Config) : checkWidth config identifier = pure () := if_pos hfits
    rw [Run.bind_of_ok hname, Run.bind_of_ok hname, hwidth, hwidth]

theorem checkWidth_strict_of_wide (h : nameWidth < identifier.utf8ByteSize) :
    checkWidth (config.withStrictNames true) identifier =
      .fail (.identifierTooLong identifier) := by
  rw [checkWidth, if_neg (Nat.not_le_of_lt h)]
  rfl

theorem ofRecord_strict_of_isWide (h : IsWide record identifier) :
    ofRecord (config.withStrictNames true) record = .fail (.identifierTooLong identifier) := by
  obtain ⟨hname, hwide⟩ := h
  rw [← utf8ByteSize_of_ofName hname] at hwide
  have hresult : (identifierOf record).result = .ok identifier :=
    identifierOf_result_eq_ok_iff.mpr hname
  unfold ofRecord
  rw [Run.bind_of_ok hresult, checkWidth_strict_of_wide hwide]
  rfl

theorem checkWidth_events_of_strict (h : config.strictNames) :
    (checkWidth config identifier).events = [] := by
  rw [checkWidth]
  split_ifs <;> rfl

/-- Nothing is reported of a block when names have to fit. -/
theorem ofRecord_events_of_strict (h : config.strictNames) :
    (ofRecord config record).events = [] := by
  rw [List.eq_nil_iff_forall_not_mem]
  intro event hevent
  simp only [ofRecord, identifierOf, Run.mem_bind_events_iff, Run.ofExcept_events,
    checkWidth_events_of_strict h, List.not_mem_nil, false_or, and_false, exists_const] at hevent

/-! ### What a wide identifier hides -/

theorem checkWidth_result_eq_error_iff : (checkWidth config identifier).result = .error e ↔
    config.strictNames ∧ nameWidth < identifier.utf8ByteSize ∧
      .identifierTooLong identifier = e := by
  unfold checkWidth
  split
  next hfits => simp [Nat.not_lt_of_le hfits]
  next hwide =>
    split
    next hstrict => simp [hstrict, Nat.lt_of_not_le hwide]
    next hlenient => simp [hlenient]

theorem literalOf_ne_tooLong {field : NumberField} :
    literalOf record field ≠ .error (.identifierTooLong identifier) := by
  unfold literalOf
  split
  · nofun
  · simp [mapError_eq_error_iff]

theorem slotsOf_ne_tooLong : slotsOf record ≠ .error (.identifierTooLong identifier) := by
  simp [slotsOf, mapError_eq_error_iff]

theorem readOnlyOf_ne_tooLong : readOnlyOf record ≠ .error (.identifierTooLong identifier) := by
  unfold readOnlyOf
  split <;> nofun

theorem withIdentifier_ne_tooLong {identifier' : String} :
    withIdentifier identifier' record ≠ .error (.identifierTooLong identifier) := by
  simp only [withIdentifier, ne_eq, bind_eq_error_iff, literalOf_ne_tooLong, slotsOf_ne_tooLong,
    readOnlyOf_ne_tooLong, false_or, pure, Except.pure, reduceCtorEq, and_false, exists_false,
    not_false_eq_true]

/-- An identifier is found to be too wide before any other field is looked at. -/
theorem ofRecord_result_eq_tooLong_iff :
    (ofRecord config record).result = .error (.identifierTooLong identifier) ↔
      config.strictNames ∧ IsWide record identifier := by
  simp only [ofRecord, identifierOf, Run.bind_result_eq_error_iff, Run.ofExcept_result,
    mapError_eq_ok_iff, mapError_eq_error_iff, checkWidth_result_eq_error_iff, id, reduceCtorEq,
    and_false, exists_false, false_or, Error.identifierTooLong.injEq, exists_eq_right,
    withIdentifier_ne_tooLong, or_false, IsWide]
  constructor
  · intro h
    obtain ⟨_, hname, hstrict, hwide, rfl⟩ := h
    exact ⟨hstrict, hname, utf8ByteSize_of_ofName hname ▸ hwide⟩
  · intro h
    obtain ⟨hstrict, hname, hwide⟩ := h
    exact ⟨_, hname, hstrict, utf8ByteSize_of_ofName hname ▸ hwide, rfl⟩

end Entry

/-! ## Tables -/

namespace Table

variable {config : Config} {devices xs ys : List Device} {table : Table} {identifier : String}
  {strict : Bool} {p q : Nat}

/-- The block at position `p` has an identifier that does not fit the name column. -/
def WideAt (devices : List Device) (p : Nat) (identifier : String) : Prop :=
  ∃ record, devices[p]? = some (.block record) ∧ Entry.IsWide record identifier

structure FirstWideAt (devices : List Device) (p : Nat) (identifier : String) : Prop where
  wide : WideAt devices p identifier
  first : ∀ q < p, ∀ identifier', ¬WideAt devices q identifier'

theorem exists_firstWideAt (h : WideAt devices p identifier) :
    ∃ q identifier', FirstWideAt devices q identifier' := by
  obtain ⟨q, identifier', hwide, hfirst⟩ := exists_first (P := WideAt devices) h
  exact ⟨q, identifier', hwide, hfirst⟩

theorem addDevice_of_narrow {device : Device}
    (h : ∀ record, device = .block record → ∀ identifier, ¬Entry.IsWide record identifier)
    (table : Table) :
    addDevice (config.withStrictNames strict) table device = addDevice config table device := by
  cases device with
  | skipped kind name => rfl
  | block record => rw [addDevice, addDevice, Entry.ofRecord_of_narrow (h record rfl)]

/-- As long as all names fit, it makes no difference what becomes of the others. -/
theorem ofDevices_of_narrow (h : ∀ q identifier, ¬WideAt devices q identifier) :
    ofDevices (config.withStrictNames strict) devices = ofDevices config devices := by
  refine ofDevices_congr (List.forall₂_same.mpr fun device hdevice table => ?_)
  refine addDevice_of_narrow (fun record hrecord identifier hwide => ?_) table
  obtain ⟨q, hq⟩ := List.getElem?_of_mem hdevice
  exact h q identifier ⟨record, hrecord ▸ hq, hwide⟩

theorem FirstWideAt.not_wideAt_take (h : FirstWideAt devices p identifier) :
    ∀ q identifier', ¬WideAt (devices.take p) q identifier' := by
  intro q identifier' hwide
  obtain ⟨record, hat, hwide⟩ := hwide
  have hq : q < p := by
    have := (List.getElem?_eq_some_iff.mp hat).1
    rw [List.length_take] at this
    omega
  rw [List.getElem?_take_of_lt hq] at hat
  exact h.first q hq identifier' ⟨record, hat, hwide⟩

/-- A run that refuses wide names stops at the first of them, and goes like the other one until
then. -/
theorem FirstWideAt.ofDevices_strict (h : FirstWideAt devices p identifier) :
    ofDevices (config.withStrictNames true) devices =
      ofDevices (config.withStrictNames false) (devices.take p) >>= fun _ =>
        .fail (.identifierTooLong identifier) := by
  obtain ⟨record, hat, hwide⟩ := h.wide
  obtain ⟨hp, hblock⟩ := List.getElem?_eq_some_iff.mp hat
  have hbefore : ofDevices (config.withStrictNames true) (devices.take p) =
      ofDevices (config.withStrictNames false) (devices.take p) :=
    (ofDevices_of_narrow h.not_wideAt_take).trans (ofDevices_of_narrow h.not_wideAt_take).symm
  have hstep (table : Table) : addDevice (config.withStrictNames true) table (.block record) =
      .fail (.identifierTooLong identifier) := by
    rw [addDevice, Entry.ofRecord_strict_of_isWide hwide]
    rfl
  conv_lhs =>
    rw [← List.take_append_drop p devices, List.drop_eq_getElem_cons hp, hblock, ofDevices_append,
      hbefore]
  refine bind_congr fun table => ?_
  rw [List.foldlM_cons, hstep]
  rfl

theorem ofDevices_lenient_ne_tooLong :
    (ofDevices (config.withStrictNames false) devices).result ≠
      .error (.identifierTooLong identifier) := by
  intro h
  obtain ⟨p, hfault, -⟩ := ofDevices_eq_error_iff.mp h
  cases hfault with
  | encoding _ he => exact absurd (Entry.ofRecord_result_eq_tooLong_iff.mp he).1 Bool.false_ne_true

/-- The two ways in which refusing wide names can turn out. -/
theorem ofDevices_strict_cases (config : Config) (devices : List Device) :
    ofDevices (config.withStrictNames true) devices =
        ofDevices (config.withStrictNames false) devices ∨
      ∃ p identifier table, FirstWideAt devices p identifier ∧
        (ofDevices (config.withStrictNames false) (devices.take p)).result = .ok table ∧
        (ofDevices (config.withStrictNames true) devices).result =
          .error (.identifierTooLong identifier) := by
  by_cases h : ∃ q identifier, WideAt devices q identifier
  · obtain ⟨q, _, hwide⟩ := h
    obtain ⟨p, identifier, hfirst⟩ := exists_firstWideAt hwide
    have hstrict : ofDevices (config.withStrictNames true) devices = _ := hfirst.ofDevices_strict
    cases hbefore : (ofDevices (config.withStrictNames false) (devices.take p)).result with
    | ok table =>
      refine .inr ⟨p, identifier, table, hfirst, hbefore, ?_⟩
      rw [hstrict, Run.bind_of_ok hbefore]
      rfl
    | error e =>
      left
      calc ofDevices (config.withStrictNames true) devices
        _ = ofDevices (config.withStrictNames false) (devices.take p) := by
          rw [hstrict, Run.bind_of_error hbefore, ← hbefore]
        _ = ofDevices (config.withStrictNames false) (devices.take p ++ devices.drop p) :=
          (ofDevices_append_of_error hbefore).symm
        _ = ofDevices (config.withStrictNames false) devices := by rw [List.take_append_drop]
  · simp only [not_exists] at h
    exact .inl ((ofDevices_of_narrow h).trans (ofDevices_of_narrow h).symm)

/-! ## Tables without cut names -/

/-- Names that are not cut differ when the identifiers do. -/
theorem paddedName_inj {entry entry' : Entry} (hstrict : config.strictNames)
    (h : entry.WellFormed config) (h' : entry'.WellFormed config) :
    entry.paddedName = entry'.paddedName ↔ entry.identifier = entry'.identifier := by
  rw [Text.eq_fit_iff.mpr h.paddedName, Text.eq_fit_iff.mpr h'.paddedName,
    Text.fit_inj h.legible.unspaced h'.legible.unspaced (h.width hstrict) (h'.width hstrict)]

theorem add_events_of_new_name {entry : Entry}
    (h : ∀ earlier ∈ table.entries, earlier.paddedName = entry.paddedName →
      earlier.identifier = entry.identifier) : (table.add entry).events = [] := by
  unfold add
  split
  next => rfl
  next hnew =>
    split
    next => rfl
    next first hfirst =>
      obtain ⟨hmem, hname⟩ := of_named?_eq_some hfirst
      exact absurd (List.mem_map.mpr ⟨first, hmem, h first hmem hname⟩) hnew

theorem level_ne_warn_of_addDevice {device : Device} {event : Event}
    (hstrict : config.strictNames) (htable : ∀ entry ∈ table.entries, entry.WellFormed config)
    (h : event ∈ (addDevice config table device).events) : event.level ≠ .warn := by
  cases device with
  | skipped kind name =>
    rw [addDevice, Run.mem_bind_events_iff] at h
    simp only [Run.report_events, List.mem_singleton, Run.pure_events, List.not_mem_nil, and_false,
      exists_false, or_false] at h
    subst h
    intro hwarn
    cases hwarn
  | block record =>
    rw [addDevice, Run.mem_bind_events_iff, Entry.ofRecord_events_of_strict hstrict] at h
    obtain h | ⟨entry, hentry, h⟩ := h
    · cases h
    have hwell := (Entry.ofRecord_result_eq_ok_iff.mp hentry).wellFormed
    have hnone : (table.add entry).events = [] := add_events_of_new_name fun earlier hearlier =>
      (paddedName_inj hstrict (htable earlier hearlier) hwell).mp
    rw [hnone] at h
    cases h

/-- Where no name is cut there is nothing to warn of. -/
theorem level_ne_warn_of_ofDevices (hstrict : config.strictNames) :
    ∀ event ∈ (ofDevices config devices).events, event.level ≠ .warn := by
  induction devices using List.reverseRecOn with
  | nil => nofun
  | append_singleton devices device ih =>
    intro event h
    rw [ofDevices_concat, Run.mem_bind_events_iff] at h
    obtain h | ⟨table, htable, h⟩ := h
    · exact ih event h
    · exact level_ne_warn_of_addDevice hstrict (fun _ => wellFormed_of_mem_entries htable) h

theorem nodup_paddedNames (hstrict : config.strictNames)
    (h : (ofDevices config devices).result = .ok table) :
    (table.entries.map (·.paddedName)).Nodup := by
  have hidentifiers := (ofDevices_eq_ok_iff.mp h).2
  rw [identifiers, List.nodup_iff_pairwise_ne, List.pairwise_map] at hidentifiers
  rw [List.nodup_iff_pairwise_ne, List.pairwise_map]
  refine hidentifiers.imp_of_mem fun hentry hentry' hne heq => hne ?_
  exact (paddedName_inj hstrict (wellFormed_of_mem_entries h hentry)
    (wellFormed_of_mem_entries h hentry')).mp heq

/-! ## Refusing instead of cutting -/

/-- A table all of whose names fit is not refused. -/
theorem ofDevices_strict_of_fits
    (h : (ofDevices (config.withStrictNames false) devices).result = .ok table)
    (hfits : ∀ identifier ∈ table.identifiers, identifier.length ≤ nameWidth) :
    ofDevices (config.withStrictNames true) devices =
      ofDevices (config.withStrictNames false) devices := by
  refine (ofDevices_of_narrow fun q identifier hwide => ?_).trans
    (ofDevices_of_narrow fun q identifier hwide => ?_).symm
  all_goals
    obtain ⟨record, hat, hname, hwide⟩ := hwide
    have hrecord := Device.mem_blocks_iff.mpr (List.mem_of_getElem? hat)
    obtain ⟨entry, hentry, hrenders⟩ := exists_of_mem_left (ofDevices_eq_ok_iff.mp h).1 hrecord
    have hname' := (Entry.ofRecord_result_eq_ok_iff.mp hrenders).identifier
    obtain rfl := Except.ok.inj (hname.symm.trans hname')
    exact Nat.not_le_of_lt hwide (hfits _ (List.mem_map_of_mem hentry))

/-- What changes when names that do not fit are refused instead of being cut. -/
theorem ofDevices_strict_refines_lenient (config : Config) (devices : List Device) :
    let strict := ofDevices (config.withStrictNames true) devices
    let lenient := ofDevices (config.withStrictNames false) devices
    (∀ table, strict.result = .ok table ↔ lenient.result = .ok table ∧
      ∀ identifier ∈ table.identifiers, identifier.length ≤ nameWidth) ∧
    (strict.result ≠ lenient.result → ∃ p identifier, FirstWideAt devices p identifier ∧
      strict.result = .error (.identifierTooLong identifier)) ∧
    (∀ identifier, strict.result = .error (.identifierTooLong identifier) ↔
      ∃ p table, FirstWideAt devices p identifier ∧
        (ofDevices (config.withStrictNames false) (devices.take p)).result = .ok table) ∧
    ((∀ identifier, strict.result ≠ .error (.identifierTooLong identifier)) →
      strict = lenient) ∧
    (∀ event ∈ strict.events, event.level ≠ .warn) ∧
    (∀ table, strict.result = .ok table → (table.entries.map (·.paddedName)).Nodup) := by
  intro strict lenient
  have hcases := ofDevices_strict_cases config devices
  refine ⟨fun table => ⟨fun h => ?_, fun h => ?_⟩, fun h => ?_,
    fun identifier => ⟨fun h => ?_, fun h => ?_⟩, fun h => ?_, level_ne_warn_of_ofDevices rfl,
    fun table h => nodup_paddedNames rfl h⟩
  · obtain heq | ⟨_, _, _, -, -, herror⟩ := hcases
    · refine ⟨(congrArg Run.result heq).symm.trans h, fun identifier hidentifier => ?_⟩
      obtain ⟨entry, hentry, rfl⟩ := List.mem_map.mp hidentifier
      exact (wellFormed_of_mem_entries h hentry).width rfl
    · cases h.symm.trans herror
  · exact (congrArg Run.result (ofDevices_strict_of_fits h.1 h.2)).trans h.1
  · obtain heq | ⟨p, identifier, _, hfirst, -, herror⟩ := hcases
    · exact absurd (congrArg Run.result heq) h
    · exact ⟨p, identifier, hfirst, herror⟩
  · obtain heq | ⟨p, identifier', table, hfirst, htable, herror⟩ := hcases
    · exact absurd ((congrArg Run.result heq).symm.trans h) ofDevices_lenient_ne_tooLong
    · cases h.symm.trans herror
      exact ⟨p, table, hfirst, htable⟩
  · obtain ⟨p, table, hfirst, htable⟩ := h
    exact congrArg Run.result (hfirst.ofDevices_strict.trans (Run.bind_of_ok htable))
  · obtain heq | ⟨_, identifier, _, -, -, herror⟩ := hcases
    · exact heq
    · exact absurd herror (h identifier)

theorem ofDevices_strict_refines_lenient_serialPorts :
    (ofDevices { strictNames := true }
        (Device.serialPorts ["usart-1", "cryp-processor-dma", "4th"])).result =
      .error (.identifierTooLong "CRYP_PROCESSOR_DMA") ∧
    (ofDevices { strictNames := true } (Device.serialPorts ["usart-1", "uart4"])).result =
      .ok ⟨[.serialPort "USART_1", .serialPort "UART4"]⟩ ∧
    ["USART_1         ", "UART4           "].Nodup ∧
    (ofDevices { strictNames := true }
        (Device.serialPorts ["usart-1", "4th", "cryp-processor-dma"])).result =
      .error (.invalidIdentifier ⟨"4TH", .firstCharacter⟩) := by
  obtain ⟨-, -, hwide, -, -, -⟩ := ofDevices_strict_refines_lenient {}
    (Device.serialPorts ["usart-1", "cryp-processor-dma", "4th"])
  obtain ⟨hok, -, -, -, -, hnames⟩ := ofDevices_strict_refines_lenient {}
    (Device.serialPorts ["usart-1", "uart4"])
  obtain ⟨-, hdiffer, -, -, -, -⟩ := ofDevices_strict_refines_lenient {}
    (Device.serialPorts ["usart-1", "4th", "cryp-processor-dma"])
  have hfirst : FirstWideAt (Device.serialPorts ["usart-1", "cryp-processor-dma", "4th"]) 1
      "CRYP_PROCESSOR_DMA" := by
    refine ⟨⟨_, rfl, rfl, by decide⟩, ?_⟩
    rintro q hq identifier ⟨record, hat, hname, hlong⟩
    obtain rfl : q = 0 := by omega
    cases hat
    obtain rfl : "USART_1" = identifier := Except.ok.inj hname
    exact absurd hlong (by decide)
  have htable := (hok ⟨[.serialPort "USART_1", .serialPort "UART4"]⟩).mpr ⟨rfl, by decide⟩
  refine ⟨(hwide _).mpr ⟨1, _, hfirst, rfl⟩, htable, hnames _ htable, ?_⟩
  by_contra hne
  obtain ⟨p, identifier, -, herror⟩ := hdiffer hne
  cases herror

end Table
end PeriphMap
