import PeriphMap.Proofs.Evaluation
import PeriphMap.Proofs.Identifiers
import PeriphMap.Proofs.Words

/-! Which texts are number literals, and what becomes of them. Five checks on the digits amount to
the grammar of numerals. A word of 64 bits, from which the bits of the destination are shifted out,
tells the numbers that fit from those that do not, however many digits they have. -/

namespace PeriphMap

/-! ## Digits -/

namespace Base

variable {base : Base} {c d : Char} {rest : List Char}

/-- The digits of a base, letters in both cases. -/
def figures : Base → List Char
  | hexadecimal => [
    '0', '1', '2', '3', '4', '5', '6', '7', '8', '9',
    'a', 'b', 'c', 'd', 'e', 'f',
    'A', 'B', 'C', 'D', 'E', 'F']
  | binary => ['0', '1']

theorem isDigit_iff_mem_figures : base.isDigit c = true ↔ c ∈ base.figures := by
  have hdigits : ∀ code < 103, base.isDigit (Char.ofNat code) →
      base.figures.contains (Char.ofNat code) := by
    cases base <;> decide +kernel
  have hfigures : base.figures.all base.isDigit := by
    cases base <;> decide
  constructor
  · intro hdigit
    have hc := hdigits c.toNat (Nat.lt_succ_of_le (toNat_bounds_of_isDigit hdigit).2)
    rw [Char.ofNat_toNat] at hc
    exact List.contains_iff_mem.mp (hc hdigit)
  · intro hmem
    exact List.all_eq_true.mp hfigures c hmem

/-- What is checked of the digits of a literal, one rule after the other. -/
def passesChecks (base : Base) (digits : List Char) : Bool :=
  !digits.isEmpty && digits.head? ≠ some '_' && digits.getLast? ≠ some '_' &&
    !Identifier.hasConsecutiveUnderscores digits && digits.all fun c => c = '_' || base.isDigit c

theorem passesChecks_singleton (hc : c ≠ '_') : base.passesChecks [c] = base.isDigit c := by
  simp [passesChecks, Identifier.hasConsecutiveUnderscores, hc]

theorem passesChecks_next (hc : c ≠ '_') (hd : d ≠ '_') :
    base.passesChecks (c :: d :: rest) = (base.isDigit c && base.passesChecks (d :: rest)) := by
  simp [passesChecks, Identifier.hasConsecutiveUnderscores, hc, hd, Bool.and_left_comm]

/-- An underscore passes if it is neither the last character nor followed by another one. -/
theorem passesChecks_joined (hc : c ≠ '_') :
    base.passesChecks (c :: '_' :: rest) = (base.isDigit c && base.passesChecks rest) := by
  cases rest with
  | nil => simp [passesChecks]
  | cons d rest =>
    by_cases hd : d = '_'
    · subst hd
      simp [passesChecks, Identifier.hasConsecutiveUnderscores, hc]
    · simp [passesChecks, Identifier.hasConsecutiveUnderscores, hc, hd, Bool.and_left_comm]

theorem isNumeral_eq_passesChecks (base : Base) (digits : List Char) :
    base.isNumeral digits = base.passesChecks digits := by
  fun_induction base.isNumeral digits with
  | case1 => rfl
  | case2 c =>
    by_cases hc : c = '_'
    · subst hc
      rfl
    · rw [passesChecks_singleton hc]
  | case3 c rest ih =>
    by_cases hc : c = '_'
    · subst hc
      rfl
    · rw [ih, passesChecks_joined hc]
  | case4 c rest hne hjoined ih =>
    rw [ih]
    cases rest with
    | nil => exact absurd rfl hne
    | cons d rest =>
      have hd : d ≠ '_' := by
        rintro rfl
        exact hjoined _ rfl
      by_cases hc : c = '_'
      · subst hc
        rfl
      · rw [passesChecks_next hc hd]

end Base

/-! ## Words -/

namespace Literal

variable {base : Base} {bits : Nat} {digits : List Char} {text : String}

/-- The bits of a word above the lowest ones. No word is shifted by its whole width. -/
def above (word : BitVec widest) (amount : Fin widest) : BitVec widest :=
  word >>> amount.val

/-- Whether the number in a word takes more than `bits` bits. -/
def exceeds (word : BitVec widest) (bits : Nat) : Bool :=
  if h : bits < widest then above word ⟨bits, h⟩ ≠ 0 else false

/-- The digits without the underscores among them, read into a word. -/
def word? (base : Base) (digits : List Char) : Option (BitVec widest) :=
  Text.word? widest base.radix (digits.filter (· ≠ '_'))

/-- The literal as the table writes it, its number being held in a word. -/
def forTableByWord (text : String) (base : Base) (bits : Nat) : Except Fault String :=
  if text = "0" then .ok "0" else
  match digits? base text with
  | none => .error .malformed
  | some digits =>
    if !base.passesChecks digits then .error .malformed else
    match word? base digits with
    | none => .error .tooWide
    | some word => if exceeds word bits then .error .tooWide else .ok (based base digits)

theorem exceeds_iff {word : BitVec widest} :
    exceeds word bits = true ↔ 2 ^ min bits widest ≤ word.toNat := by
  unfold exceeds
  split
  next h =>
    have hzero : (0 : BitVec widest).toNat = 0 := rfl
    rw [decide_eq_true_iff, above, ne_eq, BitVec.toNat_eq, BitVec.toNat_ushiftRight, hzero,
      Nat.min_eq_left h.le, Nat.shiftRight_eq_div_pow,
      Nat.div_eq_zero_iff_lt (Nat.two_pow_pos bits), Nat.not_lt]
  next h =>
    rw [Nat.min_eq_right (Nat.le_of_not_lt h)]
    exact iff_of_false Bool.false_ne_true (Nat.not_le_of_lt word.isLt)

theorem valueOf_filter (base : Base) (digits : List Char) :
    Text.valueOf base.radix (digits.filter (· ≠ '_')) = base.valueOf digits := by
  rw [Base.valueOf, Text.valueOf, Text.valueOf, List.filterMap_filter]
  congr 1
  apply List.filterMap_congr
  intro c _
  split
  next => rfl
  next hc =>
    rw [decide_eq_true_iff, not_ne_iff] at hc
    subst hc
    cases base <;> rfl

/-- Digits that cannot be read into a word denote a number that is too wide for every
destination. -/
theorem word?_eq (h : base.Numeral digits) :
    word? base digits = Text.wordOf? widest (base.valueOf digits) := by
  rw [← valueOf_filter]
  apply Text.word?_eq
  · cases base <;> decide
  · cases base <;> decide
  · intro c hc
    obtain ⟨hmem, hne⟩ := List.mem_filter.mp hc
    exact (h.mem c hmem).resolve_right (of_decide_eq_true hne)

theorem forTable_eq_byWord (text : String) (base : Base) (bits : Nat) :
    forTable text base bits = forTableByWord text base bits := by
  unfold forTable forTableByWord
  cases digits? base text with
  | none => rfl
  | some digits =>
    cases hnumeral : base.isNumeral digits with
    | false => simp only [← Base.isNumeral_eq_passesChecks, hnumeral]; rfl
    | true =>
      have hword := word?_eq (Base.isNumeral_iff.mp hnumeral)
      simp only [← Base.isNumeral_eq_passesChecks, hnumeral, Nat.one_shiftLeft]
      cases hread : word? base digits with
      | none =>
        have hwide := Text.wordOf?_eq_none_iff.mp (hword.symm.trans hread)
        have hmin : 2 ^ min bits widest ≤ base.valueOf digits :=
          (Nat.pow_le_pow_right Nat.two_pos (Nat.min_le_right ..)).trans hwide
        simp only [if_pos hmin]
      | some word =>
        rw [← Text.wordOf?_eq_some_iff.mp (hword.symm.trans hread)]
        simp only [exceeds_iff]
        rfl

/-! ## Texts -/

theorem digits?_marked (base : Base) (digits : List Char) :
    digits? base (marked base digits) = some digits :=
  digits?_eq_some_iff.mpr rfl

/-- What becomes of a numeral behind its mark depends on its number alone. -/
theorem forTable_marked (h : base.Numeral digits) (bits : Nat) :
    forTable (marked base digits) base bits =
      if 2 ^ min bits widest ≤ base.valueOf digits then .error .tooWide
      else .ok (based base digits) := by
  simp only [forTable, if_neg marked_ne_zero, digits?_marked, Base.isNumeral_iff.mpr h,
    Nat.one_shiftLeft]
  rfl

theorem forTable_eq_malformed_iff : forTable text base bits = .error .malformed ↔
    text ≠ "0" ∧ ¬∃ digits, base.Numeral digits ∧ text = marked base digits := by
  constructor
  · intro h
    constructor
    · rintro rfl
      cases h
    · rintro ⟨digits, hnumeral, rfl⟩
      rw [forTable_marked hnumeral] at h
      split at h <;> cases h
  · rintro ⟨hzero, hnone⟩
    rw [forTable, if_neg hzero]
    cases hdigits : digits? base text with
    | none => rfl
    | some digits =>
      have hmarked := digits?_eq_some_iff.mp hdigits
      cases hnumeral : base.isNumeral digits with
      | false => simp only [hnumeral]; rfl
      | true => exact absurd ⟨digits, Base.isNumeral_iff.mp hnumeral, hmarked⟩ hnone

theorem forTable_eq_tooWide_iff : forTable text base bits = .error .tooWide ↔
    ∃ digits, base.Numeral digits ∧ 2 ^ min bits widest ≤ base.valueOf digits ∧
      text = marked base digits := by
  constructor
  · intro h
    by_cases hmarked : ∃ digits, base.Numeral digits ∧ text = marked base digits
    · obtain ⟨digits, hnumeral, rfl⟩ := hmarked
      rw [forTable_marked hnumeral] at h
      split at h
      next hwide => exact ⟨digits, hnumeral, hwide, rfl⟩
      next => cases h
    · have hzero : text ≠ "0" := by
        rintro rfl
        cases h
      rw [forTable_eq_malformed_iff.mpr ⟨hzero, hmarked⟩] at h
      cases h
  · rintro ⟨digits, hnumeral, hwide, rfl⟩
    rw [forTable_marked hnumeral, if_pos hwide]

/-- The literals of a device list, and which of them fit. A destination may have any width, but
nothing beyond 64 bits ever fits. The literal of the table keeps the digits, and with them the
number, which may as well be held in a word of 64 bits on the way. -/
theorem forTable_language (text : String) (base : Base) (bits : Nat) :
    (∀ written, forTable text base bits = .ok written ↔
      (text = "0" ∧ written = "0") ∨ ∃ digits, base.Numeral digits ∧
        base.valueOf digits < 2 ^ min bits 64 ∧ text = marked base digits ∧
        written = based base digits) ∧
    (forTable text base bits = .error .tooWide ↔ ∃ digits, base.Numeral digits ∧
      2 ^ min bits 64 ≤ base.valueOf digits ∧ text = marked base digits) ∧
    (forTable text base bits = .error .malformed ↔
      text ≠ "0" ∧ ¬∃ digits, base.Numeral digits ∧ text = marked base digits) ∧
    (∀ c, base.isDigit c ↔ c ∈ base.figures) ∧
    (∀ digits, base.Numeral digits →
      Reading.literal? (based base digits) = some (base.valueOf digits)) ∧
    forTable text base bits = forTableByWord text base bits :=
  ⟨fun _ => forTable_eq_ok_iff, forTable_eq_tooWide_iff, forTable_eq_malformed_iff,
    fun _ => Base.isDigit_iff_mem_figures, fun _ => Reading.literal?_based,
    forTable_eq_byWord text base bits⟩

/-- The largest number of 64 bits, and the one after it. -/
theorem forTable_language_widest :
    forTable "0x0_FFFF_ffff_FFFF_ffff" .hexadecimal 4000 = .ok "16#0_FFFF_ffff_FFFF_ffff#" ∧
    Reading.literal? "16#0_FFFF_ffff_FFFF_ffff#" = some (2 ^ 64 - 1) ∧
    forTable "0x1_0000_0000_0000_0000" .hexadecimal 4000 = .error .tooWide ∧
    forTable "0b0" .binary 0 = .ok "2#0#" ∧ forTable "0b1" .binary 0 = .error .tooWide ∧
    forTable "0x_1" .hexadecimal 32 = .error .malformed := by
  obtain ⟨hok, -, -, -, hvalue, -⟩ :=
    forTable_language "0x0_FFFF_ffff_FFFF_ffff" .hexadecimal 4000
  have hwidest : Base.hexadecimal.Numeral "0_FFFF_ffff_FFFF_ffff".toList :=
    Base.isNumeral_iff.mp rfl
  obtain ⟨-, hwide, -⟩ := forTable_language "0x1_0000_0000_0000_0000" .hexadecimal 4000
  have hbeyond : Base.hexadecimal.Numeral "1_0000_0000_0000_0000".toList :=
    Base.isNumeral_iff.mp rfl
  obtain ⟨hzero, -⟩ := forTable_language "0b0" .binary 0
  obtain ⟨-, hone, -⟩ := forTable_language "0b1" .binary 0
  obtain ⟨-, -, hmalformed, -⟩ := forTable_language "0x_1" .hexadecimal 32
  refine ⟨(hok _).mpr (.inr ⟨_, hwidest, by decide, rfl, rfl⟩), hvalue _ hwidest,
    hwide.mpr ⟨_, hbeyond, by decide, rfl⟩, (hzero _).mpr (.inr ⟨_, .digit rfl, by decide, rfl, rfl⟩),
    hone.mpr ⟨_, .digit rfl, by decide, rfl⟩, hmalformed.mpr ⟨by decide, ?_⟩⟩
  rintro ⟨digits, hnumeral, hmarked⟩
  have hdigits := Literal.digits?_eq_some_iff.mpr hmarked
  cases hdigits
  exact absurd (Base.isNumeral_iff.mpr hnumeral) (by decide)

end Literal
end PeriphMap
