import PeriphMap.Proofs.Names
import PeriphMap.Proofs.Notices
import PeriphMap.Proofs.Numerals
import PeriphMap.Proofs.Slots

/-! What a block needs to get an entry. The requirements are tried one after the other, those on the
identifier first and then those on the fields as the table shows them. The first one that a block
does not meet decides the error, and the fields behind it have no part in the run. -/

namespace PeriphMap

/-! ## Fields -/

namespace Literal

variable {base : Base} {bits : Nat} {text written : String} {fault : Fault}

/-- How the table writes a literal of a device list whose number has at most `bits` bits. -/
inductive Rewritten (base : Base) (bits : Nat) : String → String → Prop where
  | zero : Rewritten base bits "0" "0"
  | numeral {digits : List Char} : base.Numeral digits → base.valueOf digits < 2 ^ bits →
      Rewritten base bits (marked base digits) (based base digits)

/-- Why a text is no such literal. -/
inductive Refused (base : Base) (bits : Nat) : String → Fault → Prop where
  | malformed {text : String} : text ≠ "0" →
      (¬∃ digits, base.Numeral digits ∧ text = marked base digits) →
      Refused base bits text .malformed
  | tooWide {digits : List Char} : base.Numeral digits → 2 ^ bits ≤ base.valueOf digits →
      Refused base bits (marked base digits) .tooWide

theorem forTable_eq_ok_iff_rewritten (hbits : bits ≤ widest) :
    forTable text base bits = .ok written ↔ Rewritten base bits text written := by
  rw [forTable_eq_ok_iff, Nat.min_eq_left hbits]
  constructor
  · rintro (⟨rfl, rfl⟩ | ⟨digits, hnumeral, hfits, rfl, rfl⟩)
    · exact .zero
    · exact .numeral hnumeral hfits
  · intro h
    cases h with
    | zero => exact .inl ⟨rfl, rfl⟩
    | numeral hnumeral hfits => exact .inr ⟨_, hnumeral, hfits, rfl, rfl⟩

theorem forTable_eq_error_iff (hbits : bits ≤ widest) :
    forTable text base bits = .error fault ↔ Refused base bits text fault := by
  constructor
  · intro h
    cases fault with
    | malformed =>
      obtain ⟨hzero, hnone⟩ := forTable_eq_malformed_iff.mp h
      exact .malformed hzero hnone
    | tooWide =>
      obtain ⟨digits, hnumeral, hwide, rfl⟩ := forTable_eq_tooWide_iff.mp h
      exact .tooWide hnumeral (Nat.min_eq_left hbits ▸ hwide)
  · intro h
    cases h with
    | malformed hzero hnone => exact forTable_eq_malformed_iff.mpr ⟨hzero, hnone⟩
    | tooWide hnumeral hwide =>
      exact forTable_eq_tooWide_iff.mpr ⟨_, hnumeral, (Nat.min_eq_left hbits).symm ▸ hwide, rfl⟩

end Literal

namespace Interrupt

variable {values : List Json.Value} {slotTexts : Vector String slotCount} {fault : Fault}

/-- The numbers that the values stand for are in the first slots, and the others are not in use. -/
def Filled (values : List Json.Value) (slotTexts : Vector String slotCount) : Prop :=
  values.length ≤ slotCount ∧ ∃ numbers,
    List.Forall₂ (fun value n => Denotes value n ∧ n < 2 ^ 32) values numbers ∧
      slotTexts.toList =
        numbers.map reference ++ List.replicate (slotCount - numbers.length) noInterrupt

/-- Why values do not fill the slots. They are counted before any of them is looked at. -/
inductive Refused (values : List Json.Value) : Fault → Prop where
  | tooMany : slotCount < values.length → Refused values (.tooMany values.length)
  | notANumber {before after : List Json.Value} {value : Json.Value} :
      values.length ≤ slotCount → values = before ++ value :: after →
      (∀ earlier ∈ before, ¬Unusable earlier) → Unusable value →
      Refused values (.notANumber value)

theorem slots_eq_ok_iff_filled : slots values = .ok slotTexts ↔ Filled values slotTexts := by
  rw [slots_eq_ok_iff, Filled]
  refine and_congr_right fun hlength =>
    exists_congr fun numbers => and_congr_right fun hnumbers => ?_
  rw [← Vector.toList_inj, toList_row (hnumbers.length_eq ▸ hlength)]

theorem slots_eq_error_iff_refused : slots values = .error fault ↔ Refused values fault := by
  rw [slots_eq_error_iff]
  constructor
  · rintro (⟨hmany, rfl⟩ | ⟨hfew, before, value, after, hvalues, hbefore, hvalue, rfl⟩)
    · exact .tooMany hmany
    · exact .notANumber hfew hvalues hbefore hvalue
  · intro h
    cases h with
    | tooMany hmany => exact .inl ⟨hmany, rfl⟩
    | notANumber hfew hvalues hbefore hvalue =>
      exact .inr ⟨hfew, _, _, _, hvalues, hbefore, hvalue, rfl⟩

end Interrupt

namespace Entry

variable {config : Config} {record record' : Record} {entry : Entry} {e : Error}

/-! ## Blocks that get an entry -/

/-- The record says everything that an entry needs, and the entry shows just that. -/
structure Reflects (config : Config) (record : Record) (entry : Entry) : Prop where
  identifier : entry.identifier = Identifier.spelling record.name
  valid : Identifier.Valid entry.identifier
  width : entry.identifier.length ≤ nameWidth ∨ config.strictNames = false
  paddedName : entry.paddedName.toList = entry.identifier.toList.take nameWidth ++
    List.replicate (nameWidth - entry.identifier.length) ' '
  address : ∃ text, record.address = some text ∧
    Literal.Rewritten .hexadecimal 32 text entry.address
  size : ∃ text, record.size = some text ∧ Literal.Rewritten .hexadecimal 32 text entry.size
  subregions : ∃ text, record.subregionMask = some text ∧
    Literal.Rewritten .binary 8 text entry.subregions
  interrupts : Interrupt.Filled (record.interrupts.getD []) entry.interrupts
  readOnly : record.readOnly = some entry.readOnly

theorem bits_le_widest (field : NumberField) : field.bits ≤ Literal.widest := by
  cases field <;> decide

theorem literalOf_eq_ok_iff_rewritten {field : NumberField} {text : String} :
    literalOf record field = .ok text ↔
      ∃ given, field.text? record = some given ∧
        Literal.Rewritten field.base field.bits given text := by
  rw [literalOf_eq_ok_iff]
  simp only [Literal.forTable_eq_ok_iff_rewritten (bits_le_widest field)]

theorem reflects_iff_renders : Reflects config record entry ↔ Renders config record entry := by
  constructor
  · intro h
    have hwidth : config.strictNames → entry.identifier.utf8ByteSize ≤ nameWidth := by
      intro hstrict
      rw [h.valid.wellFormed.utf8ByteSize_eq]
      exact h.width.resolve_right (by simp [hstrict])
    exact {
      identifier := Identifier.ofName_eq_ok_iff.mpr ⟨h.identifier.symm, h.valid⟩
      width := hwidth
      paddedName := Text.eq_fit_iff.mpr h.paddedName
      address := literalOf_eq_ok_iff_rewritten.mpr h.address
      size := literalOf_eq_ok_iff_rewritten.mpr h.size
      subregions := literalOf_eq_ok_iff_rewritten.mpr h.subregions
      interrupts := slotsOf_eq_ok_iff.mpr (Interrupt.slots_eq_ok_iff_filled.mpr h.interrupts)
      readOnly := readOnlyOf_eq_ok_iff.mpr h.readOnly }
  · intro h
    have hwell := h.wellFormed
    have hwidth : entry.identifier.length ≤ nameWidth ∨ config.strictNames = false := by
      cases hstrict : config.strictNames with
      | false => exact .inr rfl
      | true => exact .inl (hwell.width hstrict)
    exact {
      identifier := (Identifier.ofName_eq_ok_iff.mp h.identifier).1.symm
      valid := hwell.identifier
      width := hwidth
      paddedName := hwell.paddedName
      address := literalOf_eq_ok_iff_rewritten.mp h.address
      size := literalOf_eq_ok_iff_rewritten.mp h.size
      subregions := literalOf_eq_ok_iff_rewritten.mp h.subregions
      interrupts := Interrupt.slots_eq_ok_iff_filled.mp (slotsOf_eq_ok_iff.mp h.interrupts)
      readOnly := readOnlyOf_eq_ok_iff.mp h.readOnly }

/-! ## Requirements -/

/-- What is tried of a block. -/
inductive Requirement where
  | identifier
  | width
  | literal (field : NumberField)
  | interrupts
  | readOnly

namespace Requirement

/-- The requirements in the order in which they are tried. -/
def all : List Requirement := [
  identifier, width, literal .address, literal .size, literal .subregionMask, interrupts, readOnly]

/-- The records say the same where the requirement looks. -/
def Agree (record record' : Record) : Requirement → Prop
  | identifier => record.name = record'.name
  | width => record.name = record'.name
  | literal field => field.text? record = field.text? record'
  | interrupts => record.interrupts.getD [] = record'.interrupts.getD []
  | readOnly => record.readOnly = record'.readOnly

end Requirement

variable {r : Requirement} {before : List Requirement} {field : NumberField}

/-- The record does not meet the requirement, which is reported as the error. -/
inductive Fails (config : Config) (record : Record) : Requirement → Error → Prop where
  | identifier {invalid : Identifier.Invalid} :
      invalid.word = Identifier.spelling record.name →
      Identifier.FirstBroken (Identifier.spelling record.name) invalid.fault →
      Fails config record .identifier (.invalidIdentifier invalid)
  | width : config.strictNames → nameWidth < (Identifier.spelling record.name).length →
      Fails config record .width (.identifierTooLong (Identifier.spelling record.name))
  | missing {field : NumberField} : field.text? record = none →
      Fails config record (.literal field) (.missingField record.name (.number field))
  | literal {field : NumberField} {text : String} {fault : Literal.Fault} :
      field.text? record = some text → Literal.Refused field.base field.bits text fault →
      Fails config record (.literal field) (.literal record.name field text fault)
  | interrupts {fault : Interrupt.Fault} :
      Interrupt.Refused (record.interrupts.getD []) fault →
      Fails config record .interrupts (.interrupts record.name fault)
  | readOnly : record.readOnly = none →
      Fails config record .readOnly (.missingField record.name .readOnly)

def Meets (config : Config) (record : Record) (r : Requirement) : Prop :=
  ∀ e, ¬Fails config record r e

/-- Among some requirements, those of `before` come first and are met, and the next one is not. -/
@[mk_iff]
structure FirstFailure (config : Config) (record : Record) (tried before : List Requirement)
    (r : Requirement) (e : Error) : Prop where
  position : ∃ after, tried = before ++ r :: after
  met : ∀ earlier ∈ before, Meets config record earlier
  fails : Fails config record r e

/-! ### Steps of a run -/

theorem fails_identifier_iff :
    Fails config record .identifier e ↔ (identifierOf record).result = .error e := by
  simp only [identifierOf, Run.ofExcept_result, mapError_eq_error_iff,
    Identifier.ofName_eq_error_iff]
  constructor
  · intro h
    cases h with
    | identifier hword hbroken => exact ⟨_, ⟨hword, hbroken⟩, rfl⟩
  · rintro ⟨invalid, ⟨hword, hbroken⟩, rfl⟩
    exact .identifier hword hbroken

theorem fails_width_iff {identifier : String} (h : Identifier.ofName record.name = .ok identifier) :
    Fails config record .width e ↔ (checkWidth config identifier).result = .error e := by
  rw [checkWidth_result_eq_error_iff, utf8ByteSize_of_ofName h]
  obtain ⟨rfl, -⟩ := Identifier.ofName_eq_ok_iff.mp h
  constructor
  · intro h
    cases h with
    | width hstrict hwide => exact ⟨hstrict, hwide, rfl⟩
  · rintro ⟨hstrict, hwide, rfl⟩
    exact .width hstrict hwide

theorem fails_literal_iff :
    Fails config record (.literal field) e ↔ literalOf record field = .error e := by
  unfold literalOf
  constructor
  · intro h
    cases h with
    | missing hnone => rw [hnone]
    | literal hsome hrefused =>
      rw [hsome]
      exact mapError_eq_error_iff.mpr
        ⟨_, (Literal.forTable_eq_error_iff (bits_le_widest field)).mpr hrefused, rfl⟩
  · intro h
    split at h
    next hnone =>
      cases h
      exact .missing hnone
    next text hsome =>
      obtain ⟨fault, hfault, rfl⟩ := mapError_eq_error_iff.mp h
      exact .literal hsome ((Literal.forTable_eq_error_iff (bits_le_widest field)).mp hfault)

theorem fails_interrupts_iff :
    Fails config record .interrupts e ↔ slotsOf record = .error e := by
  simp only [slotsOf, mapError_eq_error_iff, Interrupt.slots_eq_error_iff_refused]
  constructor
  · intro h
    cases h with
    | interrupts hrefused => exact ⟨_, hrefused, rfl⟩
  · rintro ⟨fault, hrefused, rfl⟩
    exact .interrupts hrefused

theorem fails_readOnly_iff :
    Fails config record .readOnly e ↔ readOnlyOf record = .error e := by
  unfold readOnlyOf
  constructor
  · intro h
    cases h with
    | readOnly hnone => rw [hnone]
  · intro h
    split at h
    next hnone =>
      cases h
      exact .readOnly hnone
    next => cases h

theorem meets_iff {α : Type} {x : Except Error α}
    (h : ∀ e, Fails config record r e ↔ x = .error e) :
    Meets config record r ↔ ∃ a, x = .ok a := by
  simp only [Meets, h]
  cases x <;> simp

theorem not_firstFailure_nil : ¬∃ before r, FirstFailure config record [] before r e := by
  simp [firstFailure_iff]

/-- The first failure is that of the first requirement, unless that one is met. -/
theorem firstFailure_cons_iff {tried : List Requirement} :
    (∃ before q, FirstFailure config record (r :: tried) before q e) ↔
      Fails config record r e ∨
        Meets config record r ∧ ∃ before q, FirstFailure config record tried before q e := by
  simp only [firstFailure_iff, ← exists_and_right, exists_split_cons_iff]

/-- Every step behind the identifier is taken if those before it went well, and passes on nothing
that a later one could fail by. -/
theorem withIdentifier_eq_error_iff (config : Config) {identifier : String} :
    withIdentifier identifier record = .error e ↔
      ∃ before r, FirstFailure config record (Requirement.all.drop 2) before r e := by
  simp only [Requirement.all, List.drop_succ_cons, List.drop_zero, firstFailure_cons_iff,
    not_firstFailure_nil, meets_iff (fun _ => fails_literal_iff),
    meets_iff (fun _ => fails_interrupts_iff), fails_literal_iff, fails_interrupts_iff,
    fails_readOnly_iff, withIdentifier, bind_eq_error_iff, pure, Except.pure, reduceCtorEq,
    and_false, exists_false, or_false, exists_and_right]

theorem ofRecord_result_eq_error_iff : (ofRecord config record).result = .error e ↔
    ∃ before r, FirstFailure config record Requirement.all before r e := by
  have htried : Requirement.all = .identifier :: .width :: Requirement.all.drop 2 := rfl
  rw [htried, firstFailure_cons_iff, firstFailure_cons_iff, fails_identifier_iff,
    meets_iff (fun _ => fails_identifier_iff), ofRecord, Run.bind_result_eq_error_iff]
  refine or_congr_right ?_
  cases hname : (identifierOf record).result with
  | error e' => simp
  | ok identifier =>
    have hwidth (e : Error) : Fails config record .width e ↔
        (checkWidth config identifier).result = .error e :=
      fails_width_iff (identifierOf_result_eq_ok_iff.mp hname)
    simp only [Except.ok.injEq, exists_eq_left', exists_eq', true_and, Run.bind_result_eq_error_iff,
      hwidth, meets_iff hwidth, Run.ofExcept_result, mapError_eq_error_iff, id, exists_eq_right,
      withIdentifier_eq_error_iff config, exists_and_right]

/-! ### What has no part in a run -/

theorem Requirement.Agree.symm (h : r.Agree record record') : r.Agree record' record := by
  cases r <;> exact Eq.symm h

theorem Fails.of_agree (hname : record.name = record'.name) (hagree : r.Agree record record')
    (h : Fails config record r e) : Fails config record' r e := by
  cases h with
  | identifier hword hbroken => exact .identifier (hname ▸ hword) (hname ▸ hbroken)
  | width hstrict hwide => exact hname ▸ .width hstrict (hname ▸ hwide)
  | missing hnone => exact hname ▸ .missing (hagree ▸ hnone)
  | literal hsome hrefused => exact hname ▸ .literal (hagree ▸ hsome) hrefused
  | interrupts hrefused => exact hname ▸ .interrupts (hagree ▸ hrefused)
  | readOnly hnone => exact hname ▸ .readOnly (hagree ▸ hnone)

/-- What is behind the first failure may be anything, and nothing different is reported. -/
theorem FirstFailure.ofRecord_eq (h : FirstFailure config record Requirement.all before r e)
    (hagree : ∀ q ∈ before ++ [r], q.Agree record record') :
    ofRecord config record' = ofRecord config record := by
  have hname : record.name = record'.name := by
    obtain ⟨after, hposition⟩ := h.position
    have hhead : some Requirement.identifier = (before ++ r :: after).head? :=
      congrArg List.head? hposition
    cases before <;> cases hhead <;> exact hagree .identifier List.mem_cons_self
  have hfirst : FirstFailure config record' Requirement.all before r e := by
    refine ⟨h.position, fun q hq e' hfails => h.met q hq e' ?_,
      h.fails.of_agree hname (hagree r (List.mem_append_right _ List.mem_cons_self))⟩
    exact hfails.of_agree hname.symm (hagree q (List.mem_append_left _ hq)).symm
  have hresult : (ofRecord config record').result = (ofRecord config record).result :=
    (ofRecord_result_eq_error_iff.mpr ⟨before, r, hfirst⟩).trans
      (ofRecord_result_eq_error_iff.mpr ⟨before, r, h⟩).symm
  have hevents : (ofRecord config record').events = (ofRecord config record).events := by
    simp only [ofRecord_events, hname]
  exact Run.ext hevents hresult

/-- Which blocks get an entry, and which one, and why another block gets none. -/
theorem ofRecord_by_requirements (config : Config) (record : Record) :
    (∀ entry, (ofRecord config record).result = .ok entry ↔ Reflects config record entry) ∧
    (∀ e, (ofRecord config record).result = .error e ↔
      ∃ before r, FirstFailure config record Requirement.all before r e) ∧
    (∀ before r e, FirstFailure config record Requirement.all before r e →
      ∀ record', (∀ q ∈ before ++ [r], q.Agree record record') →
        ofRecord config record' = ofRecord config record) := by
  refine ⟨fun entry => ?_, fun e => ofRecord_result_eq_error_iff,
    fun before r e h record' hagree => h.ofRecord_eq hagree⟩
  rw [ofRecord_result_eq_ok_iff, reflects_iff_renders]

/-- A block with something wrong in every field but its name. -/
def faultyPort : Record where
  name := "usart-1"
  address := some "0x"
  size := none
  subregionMask := some "0b1_0000_0000"
  readOnly := none
  interrupts := some [.null, .null, .null, .null, .null]

/-- A block that gets an entry, and one of whose faults only the first is reported. -/
theorem ofRecord_by_requirements_serialPort :
    Reflects {} (.serialPort "usart-1") (.serialPort "USART_1") ∧
    FirstFailure {} faultyPort Requirement.all [.identifier, .width] (.literal .address)
      (.literal "usart-1" .address "0x" .malformed) ∧
    ofRecord {} { Record.serialPort "usart-1" with address := some "0x" } =
      ofRecord {} faultyPort := by
  obtain ⟨hok, -, -⟩ := ofRecord_by_requirements {} (.serialPort "usart-1")
  obtain ⟨-, -, hagree⟩ := ofRecord_by_requirements {} faultyPort
  have hname : Identifier.ofName faultyPort.name = .ok "USART_1" := rfl
  have hwidth : (checkWidth {} "USART_1").result = .ok () := rfl
  have haddress : literalOf faultyPort .address =
      .error (.literal "usart-1" .address "0x" .malformed) := rfl
  have hmet : ∀ earlier ∈ [Requirement.identifier, .width], Meets {} faultyPort earlier := by
    rw [List.forall_mem_cons, List.forall_mem_singleton]
    exact ⟨(meets_iff fun _ => fails_identifier_iff).mpr
        ⟨_, identifierOf_result_eq_ok_iff.mpr hname⟩,
      (meets_iff fun _ => fails_width_iff hname).mpr ⟨(), hwidth⟩⟩
  have hfirst : FirstFailure {} faultyPort Requirement.all [.identifier, .width] (.literal .address)
      (.literal "usart-1" .address "0x" .malformed) :=
    ⟨⟨_, rfl⟩, hmet, fails_literal_iff.mpr haddress⟩
  refine ⟨(hok _).mp rfl, hfirst, hagree _ _ _ hfirst _ ?_⟩
  simp only [List.cons_append, List.nil_append, List.forall_mem_cons]
  exact ⟨rfl, rfl, rfl, nofun⟩

end Entry
end PeriphMap
