import PeriphMap.Error
import PeriphMap.Proofs.Keys

/-! How records are read from objects. What a record says in a field is what the member with the
key of that field says, wherever it stands among the others, and members with other keys have no
part in it. For each kind of thing there is a description of the values that it is read from, and of
those that it is not. -/

namespace PeriphMap.Record

open Json

variable {α : Type} {read : Value → Except Mismatch α} {members : List (String × Value)}
  {member : String × Value} {old new record : Record} {value : Value} {m : Mismatch}

/-! ## Values -/

/-- The values that stand for an interrupt, with what they say of it. -/
inductive InterruptOf : Value → Value → Prop where
  | object {members : List (String × Value)} {number : Value} :
      members.lookup "value" = some number → InterruptOf (.object members) number
  | array (number : Value) : InterruptOf (.array [number]) number

inductive InterruptsOf : Value → List Value → Prop where
  | array {values numbers : List Value} : List.Forall₂ InterruptOf values numbers →
      InterruptsOf (.array values) numbers

/-- What is said in a field that may be left out, by a value of some form. -/
inductive Optionally (form : Value → α → Prop) : Option Value → Option α → Prop where
  | absent : Optionally form none none
  | null : Optionally form (some .null) none
  | given {value : Value} {a : α} : form value a → Optionally form (some value) (some a)

/-- Why a value is none of a kind. In a list the first element that is no interrupt decides. -/
inductive Rejected : Kind → Value → Mismatch → Prop where
  | text {value : Value} : (∀ s, value ≠ .string s) →
      Rejected .text value (.wrongType value .text)
  | flag {value : Value} : (∀ b, value ≠ .bool b) →
      Rejected .flag value (.wrongType value .flag)
  | interrupt {value : Value} : (∀ members, value ≠ .object members) →
      (∀ values, value ≠ .array values) → Rejected .interrupt value (.wrongType value .interrupt)
  | unvalued {members : List (String × Value)} : members.lookup "value" = none →
      Rejected .interrupt (.object members) (.missingField "value")
  | tooShort : Rejected .interrupt (.array []) (.tooShort 0 .interrupt)
  | tooLong {values : List Value} : 1 < values.length →
      Rejected .interrupt (.array values) (.tooLong values.length)
  | list {value : Value} : (∀ values, value ≠ .array values) →
      Rejected .list value (.wrongType value .list)
  | element {before after : List Value} {value : Value} {m : Mismatch} :
      (∀ earlier ∈ before, ∃ number, InterruptOf earlier number) → Rejected .interrupt value m →
      Rejected .list (.array (before ++ value :: after)) m

theorem readText_eq_ok_iff {text : String} : readText value = .ok text ↔ value = .string text := by
  cases value <;> simp [readText]

theorem readText_eq_error_iff : readText value = .error m ↔ Rejected .text value m := by
  constructor
  · intro h
    cases value with
    | string s => cases h
    | _ =>
      cases h
      exact .text nofun
  · intro h
    cases h with
    | text hother =>
      cases value with
      | string s => exact absurd rfl (hother s)
      | _ => rfl

theorem readFlag_eq_ok_iff {flag : Bool} : readFlag value = .ok flag ↔ value = .bool flag := by
  cases value <;> simp [readFlag]

theorem readFlag_eq_error_iff : readFlag value = .error m ↔ Rejected .flag value m := by
  constructor
  · intro h
    cases value with
    | bool b => cases h
    | _ =>
      cases h
      exact .flag nofun
  · intro h
    cases h with
    | flag hother =>
      cases value with
      | bool b => exact absurd rfl (hother b)
      | _ => rfl

theorem readInterrupt_eq_ok_iff {number : Value} :
    readInterrupt value = .ok number ↔ InterruptOf value number := by
  constructor
  · intro h
    unfold readInterrupt at h
    split at h
    case h_1 members =>
      split at h
      next hvalue =>
        cases h
        exact .object hvalue
      next => cases h
    case h_2 =>
      cases h
      exact .array number
    all_goals cases h
  · intro h
    cases h with
    | object hvalue => simp only [readInterrupt, hvalue]
    | array => rfl

theorem readInterrupt_eq_error_iff :
    readInterrupt value = .error m ↔ Rejected .interrupt value m := by
  constructor
  · intro h
    cases value with
    | object members =>
      simp only [readInterrupt] at h
      split at h
      next => cases h
      next hvalue =>
        cases h
        exact .unvalued hvalue
    | array values =>
      rcases values with _ | ⟨number, _ | ⟨other, rest⟩⟩
      · cases h
        exact .tooShort
      · cases h
      · cases h
        exact .tooLong (by simp)
    | _ =>
      cases h
      exact .interrupt nofun nofun
  · intro h
    cases h with
    | interrupt hobject harray =>
      cases value with
      | object members => exact absurd rfl (hobject members)
      | array values => exact absurd rfl (harray values)
      | _ => rfl
    | unvalued hvalue => simp only [readInterrupt, hvalue]
    | tooShort => rfl
    | @tooLong values hlength =>
      rcases values with _ | ⟨number, _ | ⟨other, rest⟩⟩
      · simp at hlength
      · simp at hlength
      · rfl

theorem readInterrupts_eq_ok_iff {numbers : List Value} :
    readInterrupts value = .ok numbers ↔ InterruptsOf value numbers := by
  constructor
  · intro h
    cases value with
    | array values =>
      exact .array ((mapM_eq_ok_iff.mp h).imp fun _ _ => readInterrupt_eq_ok_iff.mp)
    | _ => cases h
  · intro h
    obtain ⟨h⟩ := h
    exact mapM_eq_ok_iff.mpr (h.imp fun _ _ => readInterrupt_eq_ok_iff.mpr)

theorem readInterrupts_eq_error_iff :
    readInterrupts value = .error m ↔ Rejected .list value m := by
  constructor
  · intro h
    cases value with
    | array values =>
      obtain ⟨before, interrupt, after, rfl, hbefore, hinterrupt⟩ := mapM_eq_error_iff.mp h
      simp only [readInterrupt_eq_ok_iff] at hbefore
      exact .element hbefore (readInterrupt_eq_error_iff.mp hinterrupt)
    | _ =>
      cases h
      exact .list nofun
  · intro h
    cases h with
    | list hother =>
      cases value with
      | array values => exact absurd rfl (hother values)
      | _ => rfl
    | element hbefore hinterrupt =>
      simp only [← readInterrupt_eq_ok_iff] at hbefore
      exact mapM_eq_error_iff.mpr
        ⟨_, _, _, rfl, hbefore, readInterrupt_eq_error_iff.mpr hinterrupt⟩

theorem optional_eq_ok_iff {found : Option α} : optional read value = .ok found ↔
    value = .null ∧ none = found ∨ value ≠ .null ∧ ∃ a, read value = .ok a ∧ some a = found := by
  cases value with
  | null => simp [optional]
  | _ => simp [optional, map_eq_ok_iff]

/-- A null is never of the wrong type. -/
theorem optional_eq_error_iff :
    optional read value = .error m ↔ value ≠ .null ∧ read value = .error m := by
  cases value with
  | null => simp [optional]
  | _ => simp [optional, map_eq_error_iff]

/-! ## Fields -/

/-- What is known of a field once the value of its member, if there is one, is taken up. -/
def FieldWith (read : Value → Except Mismatch α) : Option Value → (old new : α) → Prop
  | none, old, new => old = new
  | some value, _, new => read value = .ok new

/-- What is known of a record once the members of an object are taken up. -/
@[mk_iff]
structure WithMembers (members : List (String × Value)) (old new : Record) : Prop where
  name : FieldWith readText (members.lookup "name") old.name new.name
  address : FieldWith (optional readText) (members.lookup "address") old.address new.address
  size : FieldWith (optional readText) (members.lookup "size") old.size new.size
  subregionMask : FieldWith (optional readText) (members.lookup "memory_subregion_mask")
    old.subregionMask new.subregionMask
  readOnly : FieldWith (optional readFlag) (members.lookup "read_only") old.readOnly new.readOnly
  interrupts : FieldWith (optional readInterrupts) (members.lookup "irqs") old.interrupts
    new.interrupts

theorem fieldWith_cons_iff {key : String} {old new : α} (h : member.1 ∉ members.map Prod.fst) :
    FieldWith read ((member :: members).lookup key) old new ↔
      ∃ mid, FieldWith read ([member].lookup key) old mid ∧
        FieldWith read (members.lookup key) mid new := by
  obtain ⟨other, value⟩ := member
  by_cases hkey : key = other
  · subst hkey
    -- the key is new, so what follows leaves the field as it is
    have hnone : members.lookup key = none := by
      rw [List.lookup_eq_none_iff]
      intro member hmember
      rw [bne_iff_ne]
      exact fun heq => h (List.mem_map.mpr ⟨member, hmember, heq.symm⟩)
    simp [hnone, FieldWith]
  · simp [List.lookup_cons, beq_false_of_ne hkey, FieldWith]

theorem withMembers_cons_iff (h : member.1 ∉ members.map Prod.fst) :
    WithMembers (member :: members) old new ↔
      ∃ mid, WithMembers [member] old mid ∧ WithMembers members mid new := by
  simp only [withMembers_iff, fieldWith_cons_iff h]
  constructor
  · rintro ⟨⟨name, hname, hname'⟩, ⟨address, haddress, haddress'⟩, ⟨size, hsize, hsize'⟩,
      ⟨mask, hmask, hmask'⟩, ⟨readOnly, hreadOnly, hreadOnly'⟩, ⟨irqs, hirqs, hirqs'⟩⟩
    exact ⟨⟨name, address, size, mask, readOnly, irqs⟩,
      ⟨hname, haddress, hsize, hmask, hreadOnly, hirqs⟩,
      hname', haddress', hsize', hmask', hreadOnly', hirqs'⟩
  · rintro ⟨mid, ⟨hname, haddress, hsize, hmask, hreadOnly, hirqs⟩,
      hname', haddress', hsize', hmask', hreadOnly', hirqs'⟩
    exact ⟨⟨_, hname, hname'⟩, ⟨_, haddress, haddress'⟩, ⟨_, hsize, hsize'⟩, ⟨_, hmask, hmask'⟩,
      ⟨_, hreadOnly, hreadOnly'⟩, ⟨_, hirqs, hirqs'⟩⟩

theorem withMember_eq_ok_iff :
    withMember old member = .ok new ↔ WithMembers [member] old new := by
  obtain ⟨key, value⟩ := member
  obtain ⟨name, address, size, mask, readOnly, irqs⟩ := new
  have hother {k : String} (h : ∀ v, (key, value) = (k, v) → False) :
      [(key, value)].lookup k = none := by
    have hne : k ≠ key := fun hk => h value (by rw [hk])
    simp [List.lookup_cons, beq_false_of_ne hne]
  unfold withMember
  split
  case h_7 hname haddress hsize hmask hreadOnly hirqs =>
    simp only [withMembers_iff, hother hname, hother haddress, hother hsize, hother hmask,
      hother hreadOnly, hother hirqs, FieldWith]
    rw [Except.ok.injEq]
    cases old
    exact mk.injEq .. |>.to_iff
  -- a known key is looked up for its own field, and for no other
  all_goals
    next heq =>
    cases heq
    simp [withMembers_iff, FieldWith, List.lookup_cons, map_eq_ok_iff, and_left_comm]

/-- The members of an object with distinct keys may come in any order. -/
theorem foldlM_withMember_eq_ok_iff (h : (members.map Prod.fst).Nodup) :
    members.foldlM withMember old = .ok new ↔ WithMembers members old new := by
  induction members generalizing old with
  | nil =>
    rw [List.foldlM_nil, withMembers_iff]
    cases old
    cases new
    simp [FieldWith, Pure.pure, Except.pure]
  | cons member members ih =>
    rw [List.map_cons, List.nodup_cons] at h
    simp only [List.foldlM_cons, bind_eq_ok_iff, withMembers_cons_iff h.1, withMember_eq_ok_iff,
      ih h.2]

theorem ofMembers_eq_ok_iff (h : (members.map Prod.fst).Nodup) :
    ofMembers members = .ok record ↔
      (members.lookup "name").isSome ∧ WithMembers members blank record := by
  rw [ofMembers, bind_eq_ok_iff]
  simp only [foldlM_withMember_eq_ok_iff h]
  cases members.lookup "name" <;> simp [Pure.pure, Except.pure]

/-! ## Fields as values -/

/-- What the members of an object say of a record. Each field stands under its key. -/
structure Says (members : List (String × Value)) (record : Record) : Prop where
  name : members.lookup "name" = some (.string record.name)
  number (field : NumberField) : Optionally (fun value text => value = .string text)
    (members.lookup field.key) (field.text? record)
  readOnly : Optionally (fun value flag => value = .bool flag)
    (members.lookup Field.readOnly.key) record.readOnly
  interrupts : Optionally InterruptsOf (members.lookup "irqs") record.interrupts

theorem fieldWith_optional_iff {form : Value → α → Prop} {field : Option Value} {found : Option α}
    (hread : ∀ value a, read value = .ok a ↔ form value a) (hnull : ∀ a, ¬form .null a) :
    FieldWith (optional read) field none found ↔ Optionally form field found := by
  cases field with
  | none =>
    constructor
    · rintro rfl
      exact .absent
    · rintro ⟨⟩
      rfl
  | some value =>
    simp only [FieldWith, optional_eq_ok_iff, hread]
    constructor
    · rintro (⟨rfl, rfl⟩ | ⟨-, a, ha, rfl⟩)
      · exact .null
      · exact .given ha
    · intro h
      cases h with
      | null => exact .inl ⟨rfl, rfl⟩
      | @given value a ha =>
        refine .inr ⟨?_, a, ha, rfl⟩
        rintro rfl
        exact hnull a ha

theorem says_iff : Says members record ↔
    (members.lookup "name").isSome ∧ WithMembers members blank record := by
  have hname (field : Option Value) (name : String) : field = some (.string name) ↔
      field.isSome ∧ FieldWith readText field "" name := by
    cases field <;> simp [FieldWith, readText_eq_ok_iff]
  have htext {field : Option Value} {found : Option String} :
      FieldWith (optional readText) field none found ↔
        Optionally (fun value text => value = .string text) field found :=
    fieldWith_optional_iff (fun _ _ => readText_eq_ok_iff) (by simp)
  have hflag {field : Option Value} {found : Option Bool} :
      FieldWith (optional readFlag) field none found ↔
        Optionally (fun value flag => value = .bool flag) field found :=
    fieldWith_optional_iff (fun _ _ => readFlag_eq_ok_iff) (by simp)
  have hlist {field : Option Value} {found : Option (List Value)} :
      FieldWith (optional readInterrupts) field none found ↔
        Optionally InterruptsOf field found :=
    fieldWith_optional_iff (fun _ _ => readInterrupts_eq_ok_iff) (fun _ h => by cases h)
  constructor
  · intro h
    obtain ⟨hsome, hread⟩ := (hname _ _).mp h.name
    exact ⟨hsome, hread, htext.mpr (h.number .address), htext.mpr (h.number .size),
      htext.mpr (h.number .subregionMask), hflag.mpr h.readOnly, hlist.mpr h.interrupts⟩
  · intro h
    obtain ⟨hsome, hwith⟩ := h
    refine ⟨(hname _ _).mpr ⟨hsome, hwith.name⟩, ?_, hflag.mp hwith.readOnly,
      hlist.mp hwith.interrupts⟩
    intro field
    cases field with
    | address => exact htext.mp hwith.address
    | size => exact htext.mp hwith.size
    | subregionMask => exact htext.mp hwith.subregionMask

end PeriphMap.Record
