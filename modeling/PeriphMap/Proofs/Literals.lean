import Mathlib
import PeriphMap.Literal

/-! Number literals. A literal of a device list and its counterpart in the table share their digits,
which form a numeral of the base. -/

namespace PeriphMap

/-! ## Digits -/

namespace Text

theorem toNat_bounds_of_digit? {radix : Nat} {c : Char} (h : (digit? radix c).isSome) :
    48 ≤ c.toNat ∧ c.toNat ≤ 102 := by
  have hdigit : ('0' ≤ c ∧ c ≤ '9') ∨ ('a' ≤ c ∧ c ≤ 'f') ∨ ('A' ≤ c ∧ c ≤ 'F') := by
    by_contra hnone
    simp only [not_or] at hnone
    simp [digit?, hnone] at h
  simp only [Char.le_def, UInt32.le_iff_toNat_le] at hdigit
  rcases hdigit with ⟨hl, hu⟩ | ⟨hl, hu⟩ | ⟨hl, hu⟩
  · exact ⟨hl, Nat.le_trans hu (by decide)⟩
  · exact ⟨Nat.le_trans (by decide) hl, hu⟩
  · exact ⟨Nat.le_trans (by decide) hl, Nat.le_trans hu (by decide)⟩

end Text

/-! ## Numerals -/

namespace Base

variable {base : Base} {c : Char} {cs digits : List Char}

/-- Digits of the base, with at most one underscore between two of them. -/
inductive Numeral (base : Base) : List Char → Prop where
  | digit {c : Char} : base.isDigit c → Numeral base [c]
  | next {c : Char} {cs : List Char} :
      base.isDigit c → Numeral base cs → Numeral base (c :: cs)
  | joined {c : Char} {cs : List Char} :
      base.isDigit c → Numeral base cs → Numeral base (c :: '_' :: cs)

@[simp] theorem isDigit_underscore (base : Base) : base.isDigit '_' = false := rfl

theorem toNat_bounds_of_isDigit (h : base.isDigit c) : 48 ≤ c.toNat ∧ c.toNat ≤ 102 :=
  Text.toNat_bounds_of_digit? h

theorem Numeral.exists_cons (h : base.Numeral cs) :
    ∃ d ds, cs = d :: ds ∧ base.isDigit d := by
  cases h with
  | digit hc | next hc _ | joined hc _ => exact ⟨_, _, rfl, hc⟩

theorem Numeral.mem (h : base.Numeral cs) : ∀ c ∈ cs, base.isDigit c ∨ c = '_' := by
  induction h with
  | digit hc =>
    intro d hd
    exact .inl (List.mem_singleton.mp hd ▸ hc)
  | next hc _ ih =>
    intro d hd
    cases hd with
    | head => exact .inl hc
    | tail _ hd => exact ih d hd
  | joined hc _ ih =>
    intro d hd
    rcases hd with _ | ⟨_, _ | ⟨_, hd⟩⟩
    · exact .inl hc
    · exact .inr rfl
    · exact ih d hd

theorem Numeral.toNat_bounds (h : base.Numeral cs) : ∀ c ∈ cs, 48 ≤ c.toNat ∧ c.toNat ≤ 102 := by
  intro c hc
  rcases h.mem c hc with hdigit | rfl
  · exact toNat_bounds_of_isDigit hdigit
  · decide

theorem isNumeral_iff : base.isNumeral cs = true ↔ base.Numeral cs := by
  constructor
  · intro h
    fun_induction base.isNumeral cs with
    | case1 => contradiction
    | case2 c => exact .digit h
    | case3 c rest ih =>
      rw [Bool.and_eq_true] at h
      exact .joined h.1 (ih h.2)
    | case4 c rest _ _ ih =>
      rw [Bool.and_eq_true] at h
      exact .next h.1 (ih h.2)
  · intro h
    induction h with
    | digit hc => rwa [isNumeral]
    | joined hc _ ih => rw [isNumeral, hc, ih]; rfl
    | next hc h ih =>
      obtain ⟨d, ds, rfl, hd⟩ := h.exists_cons
      rw [isNumeral, hc, ih]
      · rfl
      · nofun
      · rintro _ ⟨rfl, rfl⟩
        simp at hd

end Base

/-! ## Literals -/

namespace Literal

variable {base : Base} {bits : Nat} {digits : List Char} {text written : String}

/-- A literal of a device list. -/
def marked (base : Base) (digits : List Char) : String :=
  String.ofList (base.mark ++ digits)

/-- A literal of the table. -/
def based (base : Base) (digits : List Char) : String :=
  toString base.radix ++ "#" ++ String.ofList digits ++ "#"

/-- The number that a literal of a device list denotes. -/
inductive Denotes (base : Base) : String → Nat → Prop where
  | zero : Denotes base "0" 0
  | marked {digits : List Char} :
      base.Numeral digits → Denotes base (marked base digits) (base.valueOf digits)

/-- The literals of the table for numbers of at most `bits` bits. -/
def WellFormed (base : Base) (bits : Nat) (text : String) : Prop :=
  text = "0" ∨ ∃ digits, base.Numeral digits ∧ base.valueOf digits < 2 ^ bits ∧
    text = based base digits

theorem digits?_eq_some_iff : digits? base text = some digits ↔ text = marked base digits := by
  unfold digits? marked
  rw [← String.toList_inj, String.toList_ofList]
  constructor
  · intro h
    split at h
    next hprefix =>
      obtain ⟨rest, hrest⟩ := List.isPrefixOf_iff_prefix.mp hprefix
      rw [← hrest, List.drop_left, Option.some.injEq] at h
      rw [← hrest, h]
    next => contradiction
  · intro h
    rw [h, if_pos (List.isPrefixOf_iff_prefix.mpr (List.prefix_append _ _)), List.drop_left]

theorem marked_ne_zero : marked base digits ≠ "0" := by
  intro h
  have := congrArg String.toList h
  cases base <;> simp [marked, Base.mark] at this

/-- Only the mark changes on the way into the table, and only numbers that fit are let in. -/
theorem forTable_eq_ok_iff :
    forTable text base bits = .ok written ↔
      (text = "0" ∧ written = "0") ∨
        ∃ digits, base.Numeral digits ∧ base.valueOf digits < 2 ^ min bits widest ∧
          text = marked base digits ∧ written = based base digits := by
  unfold forTable
  split
  next hzero =>
    rw [Except.ok.injEq]
    constructor
    · exact fun h => .inl ⟨hzero, h.symm⟩
    · intro h
      obtain ⟨-, rfl⟩ | ⟨digits, -, -, hmarked, -⟩ := h
      · rfl
      · exact absurd (hmarked ▸ hzero) marked_ne_zero
  next hzero =>
    simp only [hzero, false_and, false_or, ← digits?_eq_some_iff, Nat.one_shiftLeft]
    split
    next hnone => simp [hnone]
    next digits hsome =>
      rw [hsome]
      constructor
      · intro h
        split at h
        next => contradiction
        next hnumeral =>
          split at h
          next => contradiction
          next hfits =>
            rw [Bool.not_eq_true, Bool.not_eq_false', Base.isNumeral_iff] at hnumeral
            exact ⟨digits, hnumeral, Nat.lt_of_not_le hfits, rfl, (Except.ok.inj h).symm⟩
      · intro h
        obtain ⟨_, hnumeral, hfits, ⟨⟩, rfl⟩ := h
        rw [Base.isNumeral_iff.mpr hnumeral, if_neg (by simp), if_neg (Nat.not_le_of_lt hfits)]
        rfl

/-- The literal that goes into the table is well formed, and the other one denotes its number. -/
theorem wellFormed_of_forTable (h : forTable text base bits = .ok written) (hbits : bits ≤ widest) :
    WellFormed base bits written := by
  rcases forTable_eq_ok_iff.mp h with ⟨-, rfl⟩ | ⟨digits, hnumeral, hfits, -, rfl⟩
  · exact .inl rfl
  · exact .inr ⟨digits, hnumeral, by rwa [Nat.min_eq_left hbits] at hfits, rfl⟩

end Literal
end PeriphMap
