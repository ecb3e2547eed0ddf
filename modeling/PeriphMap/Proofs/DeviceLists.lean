import PeriphMap.Proofs.KnownFields

/-! How device lists are read from texts. Each entry is read by itself, at its own position, and the
first one that cannot be read decides the error. A list that cannot be read is not looked at any
further, so whatever else is wrong with its blocks is not reported. -/

namespace PeriphMap

open Json (Value)

/-! ## Records -/

namespace Record

variable {members : List (String × Value)} {member : String × Value} {record : Record}
  {m : Mismatch}

/-- The value of a member is not of the type that the field with this key takes. -/
@[mk_iff]
inductive Misfit (member : String × Value) (m : Mismatch) : Prop where
  | name : member.1 = "name" → readText member.2 = .error m → Misfit member m
  | text : member.1 ∈ ["address", "size", "memory_subregion_mask"] →
      optional readText member.2 = .error m → Misfit member m
  | flag : member.1 = "read_only" → optional readFlag member.2 = .error m → Misfit member m
  | interrupts : member.1 = "irqs" → optional readInterrupts member.2 = .error m →
      Misfit member m

/-- Why members are no record: the first of the wrong type, or else that there is no name. -/
inductive Refused (members : List (String × Value)) : Mismatch → Prop where
  | misfit {before after : List (String × Value)} {member : String × Value} {m : Mismatch} :
      members = before ++ member :: after → (∀ earlier ∈ before, ∀ m', ¬Misfit earlier m') →
      Misfit member m → Refused members m
  | nameless : (∀ member ∈ members, ∀ m, ¬Misfit member m) → members.lookup "name" = none →
      Refused members (.missingField "name")

theorem exists_key_eq_iff {key : String} : (∃ field : NumberField, key = field.key) ↔
    key ∈ ["address", "size", "memory_subregion_mask"] := by
  constructor
  · rintro ⟨field, rfl⟩
    cases field <;> simp [NumberField.key]
  · intro h
    simp only [List.mem_cons, List.not_mem_nil, or_false] at h
    obtain rfl | rfl | rfl := h
    · exact ⟨.address, rfl⟩
    · exact ⟨.size, rfl⟩
    · exact ⟨.subregionMask, rfl⟩

/-- Only the name cannot be null. -/
theorem misfit_iff_rejected {key : String} {value : Value} : Misfit (key, value) m ↔
    key = "name" ∧ Rejected .text value m ∨
      value ≠ .null ∧ ((∃ field : NumberField, key = field.key) ∧ Rejected .text value m ∨
        key = Field.readOnly.key ∧ Rejected .flag value m ∨
        key = "irqs" ∧ Rejected .list value m) := by
  rw [exists_key_eq_iff]
  simp only [misfit_iff, optional_eq_error_iff, readText_eq_error_iff, readFlag_eq_error_iff,
    readInterrupts_eq_error_iff, Field.key, and_or_left, and_left_comm]

theorem withMember_eq_error_iff : withMember record member = .error m ↔ Misfit member m := by
  obtain ⟨key, value⟩ := member
  unfold withMember
  split
  case h_7 hname haddress hsize hmask hreadOnly hirqs =>
    have hother {k : String} (h : ∀ v, (key, value) = (k, v) → False) : key ≠ k :=
      fun hk => h value (by rw [hk])
    simp [misfit_iff, hother hname, hother haddress, hother hsize, hother hmask, hother hreadOnly,
      hother hirqs]
  all_goals
    next heq =>
    cases heq
    simp [misfit_iff, map_eq_error_iff]

theorem exists_withMember_eq_ok_iff :
    (∃ new, withMember record member = .ok new) ↔ ∀ m, ¬Misfit member m := by
  have herror (m : Mismatch) : Misfit member m ↔ withMember record member = .error m :=
    withMember_eq_error_iff.symm
  simp only [herror]
  cases withMember record member <;> simp

/-- What was taken up before makes no difference to whether a member fits. -/
theorem foldlM_withMember_eq_error_iff : members.foldlM withMember record = .error m ↔
    ∃ before member after, members = before ++ member :: after ∧
      (∀ earlier ∈ before, ∀ m', ¬Misfit earlier m') ∧ Misfit member m := by
  induction members generalizing record with
  | nil => exact iff_of_false nofun not_exists_split_nil
  | cons member members ih =>
    rw [exists_split_cons_iff, List.foldlM_cons, bind_eq_error_iff, withMember_eq_error_iff]
    simp only [ih, exists_and_right, exists_withMember_eq_ok_iff]

theorem exists_foldlM_withMember_eq_ok_iff : (∃ new, members.foldlM withMember record = .ok new) ↔
    ∀ member ∈ members, ∀ m, ¬Misfit member m := by
  induction members generalizing record with
  | nil => simp [Pure.pure, Except.pure]
  | cons member members ih =>
    rw [List.forall_mem_cons, List.foldlM_cons]
    simp only [bind_eq_ok_iff]
    constructor
    · rintro ⟨new, mid, hmid, hnew⟩
      exact ⟨exists_withMember_eq_ok_iff.mp ⟨mid, hmid⟩, ih.mp ⟨new, hnew⟩⟩
    · rintro ⟨hmember, hmembers⟩
      obtain ⟨mid, hmid⟩ := exists_withMember_eq_ok_iff.mpr hmember
      obtain ⟨new, hnew⟩ := ih.mpr hmembers
      exact ⟨new, mid, hmid, hnew⟩

theorem ofMembers_eq_error_iff : ofMembers members = .error m ↔ Refused members m := by
  have hname : ∀ record : Record, (if (members.lookup "name").isNone then
      .error (.missingField "name") else return record) = Except.error m ↔
        members.lookup "name" = none ∧ .missingField "name" = m := by
    intro record
    cases members.lookup "name" <;> simp [Pure.pure, Except.pure]
  rw [ofMembers, bind_eq_error_iff, foldlM_withMember_eq_error_iff]
  constructor
  · rintro (⟨before, member, after, hsplit, hbefore, hmember⟩ | ⟨record, hrecord, herror⟩)
    · exact .misfit hsplit hbefore hmember
    · obtain ⟨hnone, rfl⟩ := (hname record).mp herror
      exact .nameless (exists_foldlM_withMember_eq_ok_iff.mp ⟨record, hrecord⟩) hnone
  · intro h
    cases h with
    | misfit hsplit hbefore hmember => exact .inl ⟨_, _, _, hsplit, hbefore, hmember⟩
    | nameless hfit hnone =>
      obtain ⟨record, hrecord⟩ := exists_foldlM_withMember_eq_ok_iff.mpr hfit
      exact .inr ⟨record, hrecord, (hname record).mpr ⟨hnone, rfl⟩⟩

end Record

/-! ## Entries -/

namespace Device

variable {entry : Value} {entries : List Value} {device : Device} {devices : List Device}
  {index : Nat} {fault : Fault} {text : String}

/-- What an entry of a device list stands for. Of an entry that is no block only its type is needed,
and its name is kept if it is a string. -/
inductive Describes : Value → Device → Prop where
  | block {members : List (String × Value)} {record : Record} :
      members.lookup "type" = some (.string blockKind) → (members.lookup "name").isSome →
      Record.WithMembers members .blank record → Describes (.object members) (.block record)
  | skipped {members : List (String × Value)} {kind : String} {name : Option String} :
      members.lookup "type" = some (.string kind) → kind ≠ blockKind →
      (∀ s, name = some s ↔ members.lookup "name" = some (.string s)) →
      Describes (.object members) (.skipped kind name)

/-- Why the entry at `index` cannot be read. -/
inductive Faulty (index : Nat) : Value → Fault → Prop where
  | notAnObject {entry : Value} : (∀ members, entry ≠ .object members) →
      Faulty index entry (.notAnObject index)
  | untyped {members : List (String × Value)} :
      (∀ kind, members.lookup "type" ≠ some (.string kind)) →
      Faulty index (.object members) (.untyped index)
  | mismatch {members : List (String × Value)} {m : Record.Mismatch} :
      members.lookup "type" = some (.string blockKind) → Record.Refused members m →
      Faulty index (.object members) (.mismatch index m)

/-- The entries before this one can all be read. -/
structure FirstFaulty (entries before : List Value) (entry : Value) (fault : Fault) : Prop where
  position : ∃ after, entries = before ++ entry :: after
  legible : ∀ earlier ∈ before, ∃ device, Describes earlier device
  faulty : Faulty before.length entry fault

theorem string?_eq_some_iff {value : Option Value} {s : String} :
    value.bind (·.string?) = some s ↔ value = some (.string s) := by
  rcases value with _ | value
  · simp
  · cases value <;> simp [Json.Value.string?]

theorem string?_eq_none_iff {value : Option Value} :
    value.bind (·.string?) = none ↔ ∀ s, value ≠ some (.string s) := by
  simp only [Option.eq_none_iff_forall_ne_some, ne_eq, string?_eq_some_iff]

/-- A block, as the values of its members describe it. -/
theorem describes_block_iff {members : List (String × Value)} {record : Record} :
    Describes (.object members) (.block record) ↔
      members.lookup "type" = some (.string blockKind) ∧ record.Says members := by
  constructor
  · intro h
    cases h with
    | block htype hname hwith => exact ⟨htype, Record.says_iff.mpr ⟨hname, hwith⟩⟩
  · intro h
    obtain ⟨htype, hsays⟩ := h
    obtain ⟨hname, hwith⟩ := Record.says_iff.mp hsays
    exact .block htype hname hwith

theorem ofEntry_eq_ok_iff (hkeyed : entry.Keyed) :
    ofEntry index entry = .ok device ↔ Describes entry device := by
  constructor
  · intro h
    unfold ofEntry at h
    split at h
    case h_2 => cases h
    split at h
    case h_1 => cases h
    next members kind hkind =>
      rw [string?_eq_some_iff] at hkind
      split at h
      next hblock =>
        split at h
        case h_2 => cases h
        next record hrecord =>
          cases h
          cases hkeyed with
          | object hkeys _ =>
            obtain ⟨hname, hwith⟩ := (Record.ofMembers_eq_ok_iff hkeys).mp hrecord
            exact .block (hblock ▸ hkind) hname hwith
      next hblock =>
        cases h
        exact .skipped hkind hblock fun s => string?_eq_some_iff
  · intro h
    cases h with
    | block htype hname hwith =>
      cases hkeyed with
      | object hkeys _ =>
        simp only [ofEntry, string?_eq_some_iff.mpr htype,
          (Record.ofMembers_eq_ok_iff hkeys).mpr ⟨hname, hwith⟩, if_true]
    | @skipped members kind name htype hblock hname =>
      have hread : (members.lookup "name").bind (·.string?) = name :=
        Option.ext fun s => string?_eq_some_iff.trans (hname s).symm
      simp only [ofEntry, string?_eq_some_iff.mpr htype, if_neg hblock, hread]

theorem ofEntry_eq_error_iff : ofEntry index entry = .error fault ↔ Faulty index entry fault := by
  constructor
  · intro h
    unfold ofEntry at h
    split at h
    case h_2 hother =>
      cases h
      exact .notAnObject hother
    split at h
    next members hnone =>
      cases h
      exact .untyped (string?_eq_none_iff.mp hnone)
    next members kind hkind =>
      split at h
      case isFalse => cases h
      next hblock =>
        split at h
        case h_1 => cases h
        next m hm =>
          cases h
          rw [string?_eq_some_iff, hblock] at hkind
          exact .mismatch hkind (Record.ofMembers_eq_error_iff.mp hm)
  · intro h
    cases h with
    | notAnObject hother =>
      unfold ofEntry
      split
      next members => exact absurd rfl (hother members)
      next => rfl
    | untyped hnone => simp only [ofEntry, string?_eq_none_iff.mpr hnone]
    | mismatch htype hm =>
      simp only [ofEntry, string?_eq_some_iff.mpr htype, Record.ofMembers_eq_error_iff.mpr hm,
        if_true]

/-! ## Lists -/

theorem listOfJson_eq_ok_iff (hkeyed : ∀ entry ∈ entries, entry.Keyed) :
    listOfJson (.array entries) = .ok devices ↔ List.Forall₂ Describes entries devices := by
  rw [listOfJson, mapM_eq_ok_iff]
  generalize 0 = start
  induction entries generalizing devices start with
  | nil => simp only [List.zipIdx_nil, List.forall₂_nil_left_iff]
  | cons entry entries ih =>
    obtain ⟨hentry, hentries⟩ := List.forall_mem_cons.mp hkeyed
    simp only [List.zipIdx_cons, List.forall₂_cons_left_iff, ofEntry_eq_ok_iff hentry, ih hentries]

theorem listOfJson_eq_error_iff (hkeyed : ∀ entry ∈ entries, entry.Keyed) :
    listOfJson (.array entries) = .error fault ↔
      ∃ before entry, FirstFaulty entries before entry fault := by
  rw [listOfJson, mapM_eq_error_iff]
  constructor
  · rintro ⟨before, ⟨entry, index⟩, after, hsplit, hbefore, herror⟩
    have hentries : entries = before.map Prod.fst ++ entry :: after.map Prod.fst := by
      have := congrArg (List.map Prod.fst) hsplit
      rwa [List.zipIdx_map_fst, List.map_append, List.map_cons] at this
    have hindex : (before.map Prod.fst).length = index := by
      have hat : entries.zipIdx[before.length]? = some (entry, index) := by simp [hsplit]
      rw [List.getElem?_zipIdx, Option.map_eq_some_iff] at hat
      obtain ⟨_, -, hpair⟩ := hat
      rw [List.length_map, ← Nat.zero_add before.length]
      exact congrArg Prod.snd hpair
    refine ⟨before.map Prod.fst, entry, ⟨_, hentries⟩, ?_, ?_⟩
    · rw [List.forall_mem_map]
      intro earlier hearlier
      obtain ⟨device, hdevice⟩ := hbefore earlier hearlier
      refine ⟨device, (ofEntry_eq_ok_iff (hkeyed _ ?_)).mp hdevice⟩
      exact hentries ▸ List.mem_append_left _ (List.mem_map_of_mem hearlier)
    · exact ofEntry_eq_error_iff.mp (hindex ▸ herror)
  · rintro ⟨before, entry, ⟨after, rfl⟩, hbefore, hfaulty⟩
    refine ⟨before.zipIdx, (entry, before.length), after.zipIdx (before.length + 1), ?_, ?_,
      ofEntry_eq_error_iff.mpr hfaulty⟩
    · rw [List.zipIdx_append, List.zipIdx_cons, Nat.zero_add]
    · intro earlier hearlier
      have hmem := List.fst_mem_of_mem_zipIdx hearlier
      obtain ⟨device, hdevice⟩ := hbefore earlier.1 hmem
      exact ⟨device, (ofEntry_eq_ok_iff (hkeyed _ (List.mem_append_left _ hmem))).mpr hdevice⟩

/-- An entry that can be read is not faulty, so a faulty one is not passed over. -/
theorem Describes.not_faulty (hkeyed : entry.Keyed) (h : Describes entry device) :
    ¬Faulty index entry fault := by
  intro hfaulty
  have hok : ofEntry index entry = .ok device := (ofEntry_eq_ok_iff hkeyed).mpr h
  cases hok.symm.trans (ofEntry_eq_error_iff.mpr hfaulty)

theorem exists_firstFaulty (hkeyed : ∀ entry ∈ entries, entry.Keyed)
    (hat : entries[index]? = some entry) (hfaulty : Faulty index entry fault) :
    ∃ before entry' fault', before.length ≤ index ∧ FirstFaulty entries before entry' fault' := by
  have hmem : entry ∈ entries := List.mem_of_getElem? hat
  cases hlist : listOfJson (.array entries) with
  | ok devices =>
    have hdevices := (listOfJson_eq_ok_iff hkeyed).mp hlist
    obtain ⟨device, -, hdescribes⟩ := exists_of_mem_left hdevices hmem
    exact absurd hfaulty (hdescribes.not_faulty (hkeyed entry hmem))
  | error fault' =>
    obtain ⟨before, entry', hfirst⟩ := (listOfJson_eq_error_iff hkeyed).mp hlist
    refine ⟨before, entry', fault', Nat.le_of_not_lt fun hlt => ?_, hfirst⟩
    obtain ⟨after, hsplit⟩ := hfirst.position
    rw [hsplit, List.getElem?_append_left hlt] at hat
    obtain ⟨device, hdescribes⟩ := hfirst.legible entry (List.mem_of_getElem? hat)
    exact absurd hfaulty (hdescribes.not_faulty (hkeyed entry hmem))

/-! ## Texts -/

theorem keyed_of_parse (h : Json.parse text = .ok (.array entries)) :
    ∀ entry ∈ entries, entry.Keyed := by
  cases Json.keyed_of_parse h with
  | array hentries => exact hentries

theorem listOfText_of_parse {value : Value} (h : Json.parse text = .ok value) :
    listOfText text = listOfJson value := by
  simp only [listOfText, h]

/-- What is said of a faulty entry begins with its position. -/
theorem Faulty.exists_message (h : Faulty index entry fault) :
    ∃ what, fault.message = "entry " ++ toString index ++ what := by
  cases h with
  | notAnObject _ => exact ⟨" is not an object", rfl⟩
  | untyped _ => exact ⟨" has no string `type`", rfl⟩
  | mismatch _ _ => exact ⟨_, String.append_assoc⟩

theorem ofText_of_malformed (config : Config) (h : listOfText text = .error fault) :
    Document.ofText config text = ⟨[], .error (.malformedInput fault)⟩ := by
  have hresult : (Document.devicesOfText text).result = .error (.malformedInput fault) := by
    rw [Document.devicesOfText, Run.ofExcept_result, h]
    rfl
  rw [Document.ofText, Run.bind_of_error hresult]
  rfl

/-- Which device list a text stands for, and what keeps another text from being one. What is wrong
with the blocks of a list that cannot be read is not found out. -/
theorem listOfText_by_entries (text : String) :
    (∀ error, Json.parse text = .error error → listOfText text = .error (.notJson error)) ∧
    (∀ value, Json.parse text = .ok value → (∀ entries, value ≠ .array entries) →
      listOfText text = .error .notAnArray) ∧
    (∀ entries, Json.parse text = .ok (.array entries) →
      (∀ devices, listOfText text = .ok devices ↔ List.Forall₂ Describes entries devices) ∧
      (∀ fault, listOfText text = .error fault ↔
        ∃ before entry, FirstFaulty entries before entry fault) ∧
      (∀ before entry fault, FirstFaulty entries before entry fault →
        (∃ what, fault.message = "entry " ++ toString before.length ++ what) ∧
        ∀ text' after, Json.parse text' = .ok (.array (before ++ entry :: after)) →
          listOfText text' = .error fault) ∧
      (∀ index entry fault, entries[index]? = some entry → Faulty index entry fault →
        ∃ before entry' fault', before.length ≤ index ∧
          FirstFaulty entries before entry' fault' ∧
          ∀ config, Document.ofText config text = ⟨[], .error (.malformedInput fault')⟩)) ∧
    (∀ config fault, listOfText text = .error fault →
      Document.ofText config text = ⟨[], .error (.malformedInput fault)⟩) := by
  refine ⟨fun error herror => ?_, fun value hvalue hother => ?_, fun entries hentries => ?_,
    fun config fault => ofText_of_malformed config⟩
  · simp only [listOfText, herror]
  · rw [listOfText_of_parse hvalue]
    cases value with
    | array entries => exact absurd rfl (hother entries)
    | _ => rfl
  · have hkeyed := keyed_of_parse hentries
    have herror (fault : Fault) : listOfText text = .error fault ↔
        ∃ before entry, FirstFaulty entries before entry fault := by
      rw [listOfText_of_parse hentries, listOfJson_eq_error_iff hkeyed]
    refine ⟨fun devices => ?_, herror, fun before entry fault hfirst => ⟨?_, ?_⟩, ?_⟩
    · rw [listOfText_of_parse hentries, listOfJson_eq_ok_iff hkeyed]
    · exact hfirst.faulty.exists_message
    · intro text' after hentries'
      rw [listOfText_of_parse hentries', listOfJson_eq_error_iff (keyed_of_parse hentries')]
      exact ⟨before, entry, ⟨after, rfl⟩, hfirst.legible, hfirst.faulty⟩
    · intro index entry fault hat hfaulty
      obtain ⟨before, entry', fault', hle, hfirst⟩ := exists_firstFaulty hkeyed hat hfaulty
      exact ⟨before, entry', fault', hle, hfirst, fun config =>
        ofText_of_malformed config ((herror fault').mpr ⟨before, entry', hfirst⟩)⟩

/-! ## Some device lists -/

/-- A block with all that there is to say of it. -/
def portText : String :=
  "[\x7b\"type\": \"block\", \"name\": \"usart-1\", \"address\": \"0x4001_1000\",
    \"size\": \"0x0400\", \"memory_subregion_mask\": \"0b1100_0000\", \"read_only\": false,
    \"irqs\": [\x7b\"value\": 53\x7d, [\"007\"]]\x7d]"

def portMembers : List (String × Value) := [
  ("type", .string "block"), ("name", .string "usart-1"), ("address", .string "0x4001_1000"),
  ("size", .string "0x0400"), ("memory_subregion_mask", .string "0b1100_0000"),
  ("read_only", .bool false),
  ("irqs", .array [.object [("value", .number (.integer 53))], .array [.string "007"]])]

theorem describes_port : Describes (.object portMembers) (.block (.serialPort "usart-1")) :=
  describes_block_iff.mpr ⟨rfl, {
    name := rfl
    number := fun field => by cases field <;> exact .given rfl
    readOnly := .given rfl
    interrupts := .given (.array (.cons (.object rfl) (.cons (.array _) .nil))) }⟩

/-- A block that has no entry, in front of something that is no object. -/
def brokenText : String :=
  "[\x7b\"type\": \"block\", \"name\": \"4th\"\x7d, 7]"

/-- A block whose address is not given as a text. -/
def mistypedText : String :=
  "[\x7b\"type\": \"block\", \"address\": 4096\x7d]"

def mistypedMembers : List (String × Value) :=
  [("type", .string "block"), ("address", .number (.integer 4096))]

theorem refused_mistyped : Record.Refused mistypedMembers
    (.wrongType (.number (.integer 4096)) .text) := by
  have hsplit : mistypedMembers =
      [("type", .string "block")] ++ [("address", .number (.integer 4096))] := rfl
  have htype (m : Record.Mismatch) : ¬Record.Misfit ("type", .string "block") m := by
    simp [Record.misfit_iff_rejected, Record.exists_key_eq_iff, Field.key]
  have haddress : Record.Misfit ("address", .number (.integer 4096))
      (.wrongType (.number (.integer 4096)) .text) :=
    Record.misfit_iff_rejected.mpr (.inr ⟨by simp, .inl ⟨⟨.address, rfl⟩, .text (by simp)⟩⟩)
  exact .misfit hsplit (List.forall_mem_singleton.mpr htype) haddress

/-- A device with a name that is no string. -/
def namelessText : String :=
  "[\x7b\"name\": 3, \"type\": \"clock\"\x7d]"

/-- What is wrong with the name of a block is not found out when there is something after it that
cannot be read. -/
theorem listOfText_by_entries_broken :
    listOfText "" = .error (.notJson ⟨.endInValue, ⟨1, 0⟩⟩) ∧
    listOfText "\x7b\x7d" = .error .notAnArray ∧
    listOfText namelessText = .ok [.skipped "clock" none] ∧
    listOfText portText = .ok [.block (.serialPort "usart-1")] ∧
    listOfText mistypedText =
      .error (.mismatch 0 (.wrongType (.number (.integer 4096)) .text)) ∧
    Document.ofText {} brokenText = ⟨[], .error (.malformedInput (.notAnObject 1))⟩ := by
  obtain ⟨hnotJson, -⟩ := listOfText_by_entries ""
  obtain ⟨-, hnotArray, -⟩ := listOfText_by_entries "\x7b\x7d"
  obtain ⟨-, -, hnameless, -⟩ := listOfText_by_entries namelessText
  obtain ⟨-, -, hport, -⟩ := listOfText_by_entries portText
  obtain ⟨-, -, hmistyped, -⟩ := listOfText_by_entries mistypedText
  obtain ⟨-, -, hbroken, hstops⟩ := listOfText_by_entries brokenText
  obtain ⟨hnamelessOk, -⟩ := hnameless
    [.object [("name", .number (.integer 3)), ("type", .string "clock")]] (by decide +kernel)
  obtain ⟨hportOk, -⟩ := hport [.object portMembers] (by decide +kernel)
  obtain ⟨-, hmistypedError, -⟩ := hmistyped [.object mistypedMembers] (by decide +kernel)
  obtain ⟨-, hbrokenError, -⟩ := hbroken
    [.object [("type", .string "block"), ("name", .string "4th")], .number (.integer 7)]
    (by decide +kernel)
  have hskipped : Describes (.object [("name", .number (.integer 3)), ("type", .string "clock")])
      (.skipped "clock" none) :=
    .skipped rfl (by decide) (by simp)
  have hmistypedFirst : FirstFaulty [.object mistypedMembers] [] (.object mistypedMembers)
      (.mismatch 0 (.wrongType (.number (.integer 4096)) .text)) :=
    ⟨⟨[], rfl⟩, nofun, .mismatch rfl refused_mistyped⟩
  have hlegible : Describes (.object [("type", .string "block"), ("name", .string "4th")])
      (.block { Record.blank with name := "4th" }) :=
    describes_block_iff.mpr ⟨rfl, {
      name := rfl
      number := fun field => by cases field <;> exact .absent
      readOnly := .absent
      interrupts := .absent }⟩
  have hbrokenFirst : FirstFaulty [.object [("type", .string "block"), ("name", .string "4th")],
      .number (.integer 7)] [.object [("type", .string "block"), ("name", .string "4th")]]
      (.number (.integer 7)) (.notAnObject 1) :=
    ⟨⟨[], rfl⟩, List.forall_mem_singleton.mpr ⟨_, hlegible⟩, .notAnObject nofun⟩
  exact ⟨hnotJson _ (by decide +kernel), hnotArray (.object []) (by decide +kernel) nofun,
    (hnamelessOk _).mpr (.cons hskipped .nil), (hportOk _).mpr (.cons describes_port .nil),
    (hmistypedError _).mpr ⟨_, _, hmistypedFirst⟩,
    hstops {} _ ((hbrokenError _).mpr ⟨_, _, hbrokenFirst⟩)⟩

end Device
end PeriphMap
