import Mathlib
import PeriphMap.Text.Uppercase

/-! The size of texts in bytes, and the capitals of arbitrary texts. -/

namespace PeriphMap.Text

/-! ## Sizes -/

/-- Every character of ASCII takes one byte. -/
theorem utf8Len_eq_length {cs : List Char} (h : ∀ c ∈ cs, c.toNat < 128) :
    String.utf8Len cs = cs.length := by
  induction cs with
  | nil => rfl
  | cons c cs ih =>
    have hc : c.utf8Size = 1 := by
      rw [Char.utf8Size_eq_one_iff, UInt32.le_iff_toNat_le]
      exact Nat.le_of_lt_succ (h c List.mem_cons_self)
    rw [String.utf8Len_cons, ih fun d hd => h d (List.mem_cons_of_mem _ hd), hc,
      List.length_cons]

theorem utf8ByteSize_eq_length {s : String} (h : ∀ c ∈ s.toList, c.toNat < 128) :
    s.utf8ByteSize = s.length := by
  rw [← String.utf8Len_toList, utf8Len_eq_length h, String.length_toList]

/-! ## Capitals -/

theorem isLower_iff_toNat {c : Char} : c.isLower = true ↔ 97 ≤ c.toNat ∧ c.toNat ≤ 122 := by
  rw [Char.isLower, Bool.and_eq_true, decide_eq_true_iff, decide_eq_true_iff]
  exact and_congr UInt32.le_iff_toNat_le UInt32.le_iff_toNat_le

/-- The capitals of a character are listed, or counted off in a run, or the character is its own
capital. -/
theorem capitalCodes_cases (code : Nat) :
    (∃ p ∈ caseExpansions, p.1 = code ∧ capitalCodes code = p.2) ∨
    (∃ run ∈ caseRuns, run.first ≤ code ∧ code ≤ run.last ∧
      capitalCodes code = [run.capital + (code - run.first)]) ∨
    capitalCodes code = [code] := by
  unfold capitalCodes
  split
  next capitals hlookup =>
    obtain ⟨before, after, heq, -⟩ := List.lookup_eq_some_iff.mp hlookup
    exact .inl ⟨(code, capitals), heq ▸ List.mem_append_right _ List.mem_cons_self, rfl, rfl⟩
  next =>
    split
    next run hrun =>
      have hcovers := List.find?_some hrun
      simp only [CaseRun.covers, Bool.and_eq_true, decide_eq_true_eq] at hcovers
      obtain ⟨⟨hfirst, hlast⟩, -⟩ := hcovers
      exact .inr (.inl ⟨run, List.mem_of_find?_eq_some hrun, hfirst, hlast, rfl⟩)
    next => exact .inr (.inr rfl)

/-- Beyond ASCII, no capital is a small letter of ASCII. -/
theorem capitalCodes_not_lower {code capital : Nat} (hcode : 128 ≤ code)
    (h : capital ∈ capitalCodes code) : capital < 97 ∨ 122 < capital := by
  obtain ⟨p, hp, -, hcodes⟩ | ⟨run, hrun, hfirst, hlast, hcodes⟩ | hcodes :=
    capitalCodes_cases code
  · have hall : ∀ p ∈ caseExpansions, ∀ n ∈ p.2, n < 97 ∨ 122 < n := by decide +kernel
    exact hall p hp capital (hcodes ▸ h)
  · have hall : ∀ run ∈ caseRuns,
        122 < run.capital ∨ run.capital < 97 ∧ run.last ≤ run.first := by decide +kernel
    have := hall run hrun
    rw [hcodes, List.mem_singleton] at h
    omega
  · rw [hcodes, List.mem_singleton] at h
    omega

/-- The capitals of a text contain no small letter of ASCII. -/
theorem isLower_of_mem_uppercase {s : String} {c : Char} (h : c ∈ (uppercase s).toList) :
    c.isLower = false := by
  simp only [uppercase, String.toList_ofList, List.mem_flatMap] at h
  obtain ⟨d, -, h⟩ := h
  unfold capitals at h
  split at h
  next => exact List.mem_singleton.mp h ▸ Char.isLower_toUpper_eq_false d
  next hd =>
    obtain ⟨capital, hcapital, rfl⟩ := List.mem_map.mp h
    have := capitalCodes_not_lower (Nat.le_of_not_lt hd) hcapital
    rw [Bool.eq_false_iff, ne_eq, isLower_iff_toNat, Char.toNat_ofNat]
    split <;> omega

end PeriphMap.Text
