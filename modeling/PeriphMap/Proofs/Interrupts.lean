import Mathlib
import PeriphMap.Interrupt
import PeriphMap.Proofs.Runs

/-! Interrupt numbers and the rows that hold them. -/

namespace PeriphMap.Interrupt

variable {value : Json.Value} {values : List Json.Value} {n : Nat} {numbers : List Nat}
  {slotTexts : Vector String slotCount}

/-! ## Numbers -/

/-- The interrupt number that a value stands for. -/
inductive Denotes : Json.Value → Nat → Prop where
  | integer (n : Nat) : Denotes (.number (.integer n)) n
  | digits (s : String) : s.toList ≠ [] → (∀ c ∈ s.toList, c.isDigit) →
      Denotes (.string s) (Nat.ofDigitChars 10 s.toList 0)

theorem digit?_of_isDigit {c : Char} (h : c.isDigit) :
    Text.digit? 10 c = some (c.toNat - '0'.toNat) := by
  have hc := Char.isDigit_iff_toNat.mp h
  have hle : '0' ≤ c ∧ c ≤ '9' :=
    ⟨UInt32.le_iff_toNat_le.mpr hc.1, UInt32.le_iff_toNat_le.mpr hc.2⟩
  have hlt : c.toNat - '0'.toNat < 10 := by
    have : '9'.toNat = '0'.toNat + 9 := rfl
    omega
  simp only [Text.digit?, if_pos hle, Option.filter_some, hlt, decide_true, if_true]

theorem valueOf_eq_ofDigitChars {cs : List Char} (h : ∀ c ∈ cs, c.isDigit) :
    Text.valueOf 10 cs = Nat.ofDigitChars 10 cs 0 := by
  unfold Text.valueOf
  generalize 0 = start
  induction cs generalizing start with
  | nil => rfl
  | cons c cs ih =>
    rw [List.filterMap_cons_some (digit?_of_isDigit (h c List.mem_cons_self)), List.foldl_cons,
      ih fun d hd => h d (List.mem_cons_of_mem _ hd), Nat.ofDigitChars_cons, Nat.mul_comm]

theorem number?_eq_some_iff : number? value = some n ↔ Denotes value n ∧ n < limit := by
  constructor
  · intro h
    unfold number? at h
    split at h
    next i =>
      split at h
      next hi =>
        obtain ⟨m, rfl⟩ := Int.eq_ofNat_of_zero_le hi.1
        cases h
        exact ⟨.integer m, Int.ofNat_lt.mp hi.2⟩
      next => contradiction
    next s =>
      split at h
      next hs =>
        obtain ⟨hne, hall, hlt⟩ := hs
        rw [List.all_eq_true] at hall
        cases h
        rw [valueOf_eq_ofDigitChars hall] at hlt ⊢
        exact ⟨.digits s hne hall, hlt⟩
      next => contradiction
    next => contradiction
  · intro h
    obtain ⟨_ | ⟨s, hne, hall⟩, hlt⟩ := h
    · have : (0 : Int) ≤ n ∧ (n : Int) < limit := ⟨Int.natCast_nonneg n, Int.ofNat_lt.mpr hlt⟩
      rw [number?, if_pos this, Int.toNat_natCast]
    · rw [← valueOf_eq_ofDigitChars hall] at hlt ⊢
      rw [number?, if_pos ⟨hne, List.all_eq_true.mpr hall, hlt⟩]

theorem number_eq_ok_iff : number value = .ok n ↔ Denotes value n ∧ n < limit := by
  rw [← number?_eq_some_iff, number]
  split <;> simp_all

/-! ## Rows -/

/-- Slots in use, and behind them slots that are not. -/
def WellFormed (slotTexts : Vector String slotCount) : Prop :=
  ∃ numbers : List Nat, numbers.length ≤ slotCount ∧ (∀ n ∈ numbers, n < limit) ∧
    slotTexts.toList =
      numbers.map reference ++ List.replicate (slotCount - numbers.length) noInterrupt

theorem toList_row (h : numbers.length ≤ slotCount) :
    (row numbers).toList =
      numbers.map reference ++ List.replicate (slotCount - numbers.length) noInterrupt := by
  refine List.ext_getElem (by simp; omega) fun i _ _ => ?_
  simp only [row, Vector.getElem_toList, Vector.getElem_ofFn, List.getElem_append,
    List.length_map, List.getElem_map, List.getElem_replicate]
  split
  next hi => rw [List.getElem?_eq_getElem hi, Option.map_some, Option.getD_some]
  next hi => rw [List.getElem?_eq_none (by omega), Option.map_none, Option.getD_none]

theorem slots_eq_ok_iff : slots values = .ok slotTexts ↔
    values.length ≤ slotCount ∧ ∃ numbers,
      List.Forall₂ (fun value n => Denotes value n ∧ n < limit) values numbers ∧
        slotTexts = row numbers := by
  unfold slots
  split
  next hmany => simp [Nat.not_le_of_lt hmany]
  next hfew =>
    simp only [map_eq_ok_iff, mapM_eq_ok_iff, number_eq_ok_iff, Nat.le_of_not_lt hfew, true_and]
    exact exists_congr fun _ => and_congr_right fun _ => eq_comm

theorem wellFormed_of_slots (h : slots values = .ok slotTexts) : WellFormed slotTexts := by
  obtain ⟨hlen, numbers, hnumbers, rfl⟩ := slots_eq_ok_iff.mp h
  rw [hnumbers.length_eq] at hlen
  refine ⟨numbers, hlen, fun n hn => ?_, toList_row hlen⟩
  obtain ⟨value, -, -, hlt⟩ := exists_of_mem_right hnumbers hn
  exact hlt

end PeriphMap.Interrupt
