import PeriphMap.Error
import PeriphMap.Proofs.Evaluation
import PeriphMap.Proofs.Words

/-! Which values can be given for the interrupts of a block, and what its slots then hold.
Everything that is not an interrupt number is listed here as well, so that each value is one or the
other. -/

namespace PeriphMap.Interrupt

variable {value : Json.Value} {values values' : List Json.Value} {n : Nat} {numbers : List Nat}
  {slotTexts : Vector String slotCount} {s : String}

/-! ## Values -/

/-- The values that stand for no interrupt. A number written with a fraction or an exponent is a
double, whatever its value is. -/
inductive Unusable : Json.Value → Prop where
  | null : Unusable .null
  | bool (b : Bool) : Unusable (.bool b)
  | array (items : List Json.Value) : Unusable (.array items)
  | object (members : List (String × Json.Value)) : Unusable (.object members)
  | double (negative : Bool) (magnitude : Numeric.Binary64) :
      Unusable (.number (.double negative magnitude))
  | negative {n : Int} : n < 0 → Unusable (.number (.integer n))
  | wide {n : Int} : 2 ^ 32 ≤ n → Unusable (.number (.integer n))
  | empty : Unusable (.string "")
  | otherCharacter {s : String} {c : Char} : c ∈ s.toList → c.isDigit = false →
      Unusable (.string s)
  | wideDigits {s : String} : (∀ c ∈ s.toList, c.isDigit) →
      2 ^ 32 ≤ Nat.ofDigitChars 10 s.toList 0 → Unusable (.string s)

theorem Denotes.not_unusable (h : Denotes value n) (hn : n < 2 ^ 32) : ¬Unusable value := by
  cases h with
  | integer n =>
    rintro (_ | _ | _ | _ | _ | hnegative | hwide)
    · exact absurd hnegative (Int.not_lt.mpr (Int.natCast_nonneg n))
    · omega
  | digits s hne hdigits =>
    intro h
    cases h with
    | empty => exact hne rfl
    | otherCharacter hc hother => exact absurd (hdigits _ hc) (by simp [hother])
    | wideDigits _ hwide => exact absurd hn (Nat.not_lt_of_le hwide)

theorem exists_denotes_of_not_unusable (h : ¬Unusable value) :
    ∃ n < 2 ^ 32, Denotes value n := by
  cases value with
  | null => exact absurd .null h
  | bool b => exact absurd (.bool b) h
  | array items => exact absurd (.array items) h
  | object members => exact absurd (.object members) h
  | number number =>
    cases number with
    | double negative magnitude => exact absurd (.double negative magnitude) h
    | integer i =>
      have hnonneg : 0 ≤ i := Int.not_lt.mp fun hi => h (.negative hi)
      have hlt : i < 2 ^ 32 := Int.not_le.mp fun hi => h (.wide hi)
      obtain ⟨n, rfl⟩ := Int.eq_ofNat_of_zero_le hnonneg
      exact ⟨n, by omega, .integer n⟩
  | string s =>
    have hne : s.toList ≠ [] := by
      intro hnil
      obtain rfl := String.toList_eq_nil_iff.mp hnil
      exact h .empty
    have hdigits : ∀ c ∈ s.toList, c.isDigit := by
      intro c hc
      by_contra hother
      exact h (.otherCharacter hc (by simpa using hother))
    exact ⟨_, Nat.lt_of_not_le fun hwide => h (.wideDigits hdigits hwide), .digits s hne hdigits⟩

/-- Every value is an interrupt number or is listed as unusable. -/
theorem unusable_iff : Unusable value ↔ ¬∃ n < 2 ^ 32, Denotes value n := by
  constructor
  · rintro h ⟨n, hn, hdenotes⟩
    exact hdenotes.not_unusable hn h
  · intro h
    by_contra hnot
    exact h (exists_denotes_of_not_unusable hnot)

theorem number_eq_error_iff {fault : Fault} :
    number value = .error fault ↔ Unusable value ∧ fault = .notANumber value := by
  have hnone : number? value = none ↔ Unusable value := by
    rw [unusable_iff, Option.eq_none_iff_forall_ne_some]
    constructor
    · rintro h ⟨n, hn, hdenotes⟩
      exact h n (number?_eq_some_iff.mpr ⟨hdenotes, hn⟩)
    · intro h n hsome
      obtain ⟨hdenotes, hn⟩ := number?_eq_some_iff.mp hsome
      exact h ⟨n, hn, hdenotes⟩
  rw [← hnone, number]
  cases number? value with
  | none =>
    simp only [Except.error.injEq, true_and]
    exact eq_comm
  | some n => simp

/-! ## Words -/

/-- An interrupt number in a word of 32 bits. An integer comes in a word of 64 bits. -/
def word? : Json.Value → Option (BitVec 32)
  | .number (.integer n) =>
    if n < 0 then none
    else (Text.wordOf? 64 n.toNat).bind fun word => Text.wordOf? 32 word.toNat
  | .string s =>
    if s.toList ≠ [] ∧ s.toList.all Char.isDigit then Text.word? 32 10 s.toList else none
  | _ => none

theorem word?_of_digits (h : ∀ c ∈ s.toList, c.isDigit) :
    Text.word? 32 10 s.toList = Text.wordOf? 32 (Nat.ofDigitChars 10 s.toList 0) := by
  rw [← valueOf_eq_ofDigitChars h]
  apply Text.word?_eq
  · decide
  · decide
  · intro c hc
    rw [digit?_of_isDigit (h c hc)]
    rfl

theorem word?_eq_some_iff {word : BitVec 32} :
    word? value = some word ↔ Denotes value word.toNat := by
  constructor
  · intro h
    unfold word? at h
    split at h
    next i =>
      split at h
      next => contradiction
      next hi =>
        obtain ⟨n, rfl⟩ := Int.eq_ofNat_of_zero_le (Int.not_lt.mp hi)
        obtain ⟨wide, hwide, hnarrow⟩ := Option.bind_eq_some_iff.mp h
        have hn : wide.toNat = n := Text.wordOf?_eq_some_iff.mp hwide
        rw [Text.wordOf?_eq_some_iff.mp hnarrow, hn]
        exact .integer n
    next s =>
      split at h
      next hs =>
        obtain ⟨hne, hdigits⟩ := hs
        rw [List.all_eq_true] at hdigits
        rw [word?_of_digits hdigits] at h
        rw [Text.wordOf?_eq_some_iff.mp h]
        exact .digits s hne hdigits
      next => contradiction
    next => contradiction
  · intro h
    generalize hword : word.toNat = n at h
    cases h with
    | integer n =>
      have hnonneg : ¬(n : Int) < 0 := Int.not_lt.mpr (Int.natCast_nonneg n)
      have hwide : Text.wordOf? 64 n = some (word.setWidth 64) := by
        rw [Text.wordOf?_eq_some_iff, BitVec.toNat_setWidth_of_le (by decide), hword]
      rw [word?, if_neg hnonneg, Int.toNat_natCast, hwide, Option.bind_some,
        Text.wordOf?_eq_some_iff, BitVec.toNat_setWidth_of_le (by decide)]
    | digits s hne hdigits =>
      rw [word?, if_pos ⟨hne, List.all_eq_true.mpr hdigits⟩, word?_of_digits hdigits]
      exact Text.wordOf?_eq_some_iff.mpr hword

/-- Both ways in which a number can be given end in the same word. -/
theorem number?_eq_word? (value : Json.Value) : number? value = (word? value).map BitVec.toNat := by
  ext n
  rw [number?_eq_some_iff, Option.map_eq_some_iff]
  simp only [word?_eq_some_iff]
  constructor
  · rintro ⟨hdenotes, hn⟩
    have hword : (BitVec.ofNat 32 n).toNat = n :=
      (BitVec.toNat_ofNat ..).trans (Nat.mod_eq_of_lt hn)
    exact ⟨.ofNat 32 n, by rwa [hword], hword⟩
  · rintro ⟨word, hdenotes, rfl⟩
    exact ⟨hdenotes, word.isLt⟩

/-! ## Rows -/

theorem Denotes.unique {m : Nat} (hm : Denotes value m) (hn : Denotes value n) : m = n := by
  cases hm <;> cases hn <;> rfl

/-- Values that stand for the same interrupt, if for any. -/
def Interchangeable (value value' : Json.Value) : Prop :=
  value = value' ∨ ∃ n, Denotes value n ∧ Denotes value' n

theorem Interchangeable.symm {value value' : Json.Value} (h : Interchangeable value value') :
    Interchangeable value' value := by
  rcases h with rfl | ⟨n, hn, hn'⟩
  · exact .inl rfl
  · exact .inr ⟨n, hn', hn⟩

theorem Interchangeable.denotes {value value' : Json.Value} (h : Interchangeable value value')
    (hn : Denotes value n) : Denotes value' n := by
  rcases h with rfl | ⟨m, hm, hm'⟩
  · exact hn
  · exact hm.unique hn ▸ hm'

theorem slots_of_interchangeable (h : List.Forall₂ Interchangeable values values')
    (hslots : slots values = .ok slotTexts) : slots values' = .ok slotTexts := by
  obtain ⟨hlength, numbers, hnumbers, rfl⟩ := slots_eq_ok_iff.mp hslots
  refine slots_eq_ok_iff.mpr ⟨h.length_eq ▸ hlength, numbers, ?_, rfl⟩
  clear hslots hlength
  induction h generalizing numbers with
  | nil => exact hnumbers
  | cons hsame _ ih =>
    obtain ⟨n, rest, ⟨hn, hlimit⟩, hrest, rfl⟩ := List.forall₂_cons_left_iff.mp hnumbers
    exact .cons ⟨hsame.denotes hn, hlimit⟩ (ih rest hrest)

/-- The texts of a row, slot by slot. -/
theorem eq_row_iff : slotTexts = row numbers ↔
    ∀ slot : Fin slotCount, slotTexts[slot] = numbers[slot.val]?.elim noInterrupt reference := by
  have hslot (slot : Fin slotCount) :
      (row numbers)[slot] = numbers[slot.val]?.elim noInterrupt reference := by
    simp only [row, Fin.getElem_fin, Vector.getElem_ofFn]
    cases numbers[slot.val]? <;> rfl
  constructor
  · rintro rfl
    exact hslot
  · intro h
    apply Vector.ext
    intro i hi
    exact (h ⟨i, hi⟩).trans (hslot ⟨i, hi⟩).symm

/-- The number of values is looked at before any of them, and of them the first unusable one decides
the error. -/
theorem slots_eq_error_iff {fault : Fault} : slots values = .error fault ↔
    (slotCount < values.length ∧ fault = .tooMany values.length) ∨
    (values.length ≤ slotCount ∧ ∃ before value after, values = before ++ value :: after ∧
      (∀ earlier ∈ before, ¬Unusable earlier) ∧ Unusable value ∧ fault = .notANumber value) := by
  have hnumber : ∀ value, (∃ n, number value = .ok n) ↔ ¬Unusable value := by
    intro value
    rw [unusable_iff, not_not]
    simp only [number_eq_ok_iff, and_comm]
    rfl
  unfold slots
  split
  next hmany =>
    simp only [hmany, Nat.not_le_of_lt hmany, true_and, false_and, or_false, Except.error.injEq]
    exact eq_comm
  next hfew =>
    simp only [hfew, Nat.le_of_not_lt hfew, true_and, false_and, false_or, map_eq_error_iff,
      mapM_eq_error_iff, hnumber, number_eq_error_iff]

theorem numbers_of_slots (h : slots values = .ok slotTexts) :
    ∃ numbers, List.Forall₂ Denotes values numbers ∧ slotTexts.toList.mapM Reading.slot? =
      some (numbers.map some ++ List.replicate (slotCount - numbers.length) none) := by
  obtain ⟨hlength, numbers, hnumbers, rfl⟩ := slots_eq_ok_iff.mp h
  rw [hnumbers.length_eq] at hlength
  exact ⟨numbers, hnumbers.imp fun _ _ => And.left, Reading.mapM_slot?_row hlength⟩

/-- What becomes of the values given for the interrupts of a block. At most four numbers of 32 bits
fill the slots, from which they can be read again. Otherwise the number of the values is at fault,
or the first of them that is no such number. It makes no difference in which way a number is given,
nor that it is held in a word of 32 bits. -/
theorem slots_determined (device : String) (values : List Json.Value) :
    (∀ slotTexts, (slots values).mapError (Error.interrupts device) = .ok slotTexts ↔
      values.length ≤ 4 ∧ ∃ numbers,
        List.Forall₂ (fun value n => Denotes value n ∧ n < 2 ^ 32) values numbers ∧
        ∀ slot : Fin slotCount, slotTexts[slot] = numbers[slot.val]?.elim "INT_NONE" fun n =>
          "t_interrupt'val(" ++ toString n ++ ")") ∧
    (∀ slotTexts, slots values = .ok slotTexts → ∃ numbers, List.Forall₂ Denotes values numbers ∧
      slotTexts.toList.mapM Reading.slot? =
        some (numbers.map some ++ List.replicate (4 - numbers.length) none)) ∧
    (∀ error, (slots values).mapError (Error.interrupts device) = .error error ↔
      (4 < values.length ∧ error = .interrupts device (.tooMany values.length)) ∨
      (values.length ≤ 4 ∧ ∃ before value after, values = before ++ value :: after ∧
        (∀ earlier ∈ before, ¬Unusable earlier) ∧ Unusable value ∧
        error = .interrupts device (.notANumber value))) ∧
    (∀ values', List.Forall₂ Interchangeable values values' →
      ∀ slotTexts, slots values = .ok slotTexts ↔ slots values' = .ok slotTexts) ∧
    (∀ value, Unusable value ↔ ¬∃ n < 2 ^ 32, Denotes value n) ∧
    (∀ value, number? value = (word? value).map BitVec.toNat) := by
  refine ⟨fun slotTexts => ?_, fun slotTexts => numbers_of_slots, fun error => ?_,
    fun values' h slotTexts => ⟨slots_of_interchangeable h, ?_⟩, fun _ => unusable_iff,
    number?_eq_word?⟩
  · rw [mapError_eq_ok_iff, slots_eq_ok_iff]
    simp only [eq_row_iff]
    rfl
  · simp only [mapError_eq_error_iff, slots_eq_error_iff]
    constructor
    · rintro ⟨_, ⟨hmany, rfl⟩ | ⟨hfew, before, value, after, hvalues, hbefore, hvalue, rfl⟩, rfl⟩
      · exact .inl ⟨hmany, rfl⟩
      · exact .inr ⟨hfew, before, value, after, hvalues, hbefore, hvalue, rfl⟩
    · rintro (⟨hmany, rfl⟩ | ⟨hfew, before, value, after, hvalues, hbefore, hvalue, rfl⟩)
      · exact ⟨_, .inl ⟨hmany, rfl⟩, rfl⟩
      · exact ⟨_, .inr ⟨hfew, before, value, after, hvalues, hbefore, hvalue, rfl⟩, rfl⟩
  · exact slots_of_interchangeable (h.flip.imp fun _ _ => Interchangeable.symm)

/-- A number, and digits for the same number. -/
theorem slots_determined_leadingZeros :
    slots [.number (.integer 53), .string "0007"] = .ok (row [53, 7]) ∧
    slots [.string "00000000000053", .number (.integer 7)] = .ok (row [53, 7]) ∧
    (slots [.number (.integer 53), .bool true, .null]).mapError (Error.interrupts "tim1") =
      .error (.interrupts "tim1" (.notANumber (.bool true))) ∧
    (row [53, 7]).toList.mapM Reading.slot? = some [some 53, some 7, none, none] := by
  have hgiven : slots [.number (.integer 53), .string "0007"] = .ok (row [53, 7]) := rfl
  obtain ⟨-, hread, -, hsame, -⟩ :=
    slots_determined "tim1" [.number (.integer 53), .string "0007"]
  obtain ⟨-, -, herror, -⟩ :=
    slots_determined "tim1" [.number (.integer 53), .bool true, .null]
  have hfirst : Denotes (.string "00000000000053") 53 :=
    .digits _ (by decide) (List.all_eq_true.mp rfl)
  have hsecond : Denotes (.string "0007") 7 := .digits _ (by decide) (List.all_eq_true.mp rfl)
  have hother := (hsame [.string "00000000000053", .number (.integer 7)]
    (.cons (.inr ⟨53, .integer 53, hfirst⟩) (.cons (.inr ⟨7, hsecond, .integer 7⟩) .nil)) _).mp
      hgiven
  have hbefore : ∀ earlier ∈ [Json.Value.number (.integer 53)], ¬Unusable earlier :=
    List.forall_mem_singleton.mpr ((Denotes.integer 53).not_unusable (by decide))
  have hbool := (herror _).mpr
    (.inr ⟨by decide, _, _, [.null], rfl, hbefore, .bool true, rfl⟩)
  obtain ⟨_, hnumbers, hslots⟩ := hread _ hgiven
  cases hnumbers with
  | cons hn hrest =>
    cases hrest with
    | cons hm hnil =>
      cases hnil
      cases hn.unique (.integer 53)
      cases hm.unique hsecond
      exact ⟨hgiven, hother, hbool, hslots⟩

end PeriphMap.Interrupt
