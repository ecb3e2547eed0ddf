import PeriphMap.Proofs.Interrupts
import PeriphMap.Proofs.Lines
import PeriphMap.Proofs.Literals

/-! The numbers that the generated text writes, evaluated by the rules of Ada. They are those that
the device list wrote in its own way. -/

namespace PeriphMap.Reading

open Text

/-! ## Evaluation -/

/-- The value of a digit of the base, in either letter case. -/
def figure? (radix : Nat) (c : Char) : Option Nat :=
  ("0123456789abcdef".toList.take radix).idxOf? c.toLower

/-- The number that digits of a base denote. Underscores among them mean nothing. -/
def number? (radix : Nat) (text : String) : Option Nat := do
  let figures ← (text.toList.filter (· ≠ '_')).mapM (figure? radix)
  if figures.isEmpty then none else return Nat.ofDigits radix figures.reverse

/-- A plain `0`, or digits between number signs behind their radix. -/
def literal? (text : String) : Option Nat :=
  if text = "0" then some 0 else
  match split '#' text with
  | [radix, digits, _] => do
    let radix ← number? 10 radix
    number? radix digits
  | _ => none

/-- The interrupt of a slot, if there is one. -/
def slot? (text : String) : Option (Option Nat) :=
  if text = "INT_NONE" then some none else do
    let digits ← between? "t_interrupt'val(" ")" text
    let n ← number? 10 digits
    return some n

/-! ## Numbers -/

variable {radix value : Nat} {c : Char} {cs digits : List Char} {base : Base} {bits : Nat}

theorem figure?_of_digit? (hradix : radix ∈ [2, 10, 16]) (h : Text.digit? radix c = some value) :
    figure? radix c = some value := by
  have htable : ∀ radix ∈ [2, 10, 16], ∀ code < 103,
      Text.digit? radix (Char.ofNat code) = figure? radix (Char.ofNat code) := by decide +kernel
  have hcode : c.toNat ≤ 102 := (Text.toNat_bounds_of_digit? (Option.isSome_of_eq_some h)).2
  have hc := htable radix hradix c.toNat (Nat.lt_succ_of_le hcode)
  rwa [Char.ofNat_toNat, h, eq_comm] at hc

theorem ofDigits_reverse (radix : Nat) (figures : List Nat) :
    Nat.ofDigits radix figures.reverse =
      figures.foldl (fun value figure => value * radix + figure) 0 := by
  induction figures using List.reverseRecOn with
  | nil => rfl
  | append_singleton figures figure ih =>
    rw [List.reverse_append, List.reverse_singleton, List.singleton_append, Nat.ofDigits_cons, ih,
      List.foldl_append, List.foldl_cons, List.foldl_nil]
    ring

theorem mapM_figure? (hradix : radix ∈ [2, 10, 16])
    (hmem : ∀ c ∈ cs, (Text.digit? radix c).isSome ∨ c = '_') :
    (cs.filter (· ≠ '_')).mapM (figure? radix) = some (cs.filterMap (Text.digit? radix)) := by
  induction cs with
  | nil => rfl
  | cons c cs ih =>
    have hrest := ih fun d hd => hmem d (List.mem_cons_of_mem _ hd)
    rcases hmem c List.mem_cons_self with hdigit | rfl
    · obtain ⟨value, hvalue⟩ := Option.isSome_iff_exists.mp hdigit
      have hc : c ≠ '_' := by
        rintro rfl
        contradiction
      rw [List.filter_cons, if_pos (decide_eq_true hc), List.mapM_cons,
        figure?_of_digit? hradix hvalue, hrest, List.filterMap_cons_some hvalue]
      rfl
    · rw [List.filter_cons, if_neg (by decide), hrest, List.filterMap_cons_none rfl]

theorem number?_eq_some (hradix : radix ∈ [2, 10, 16])
    (hmem : ∀ c ∈ cs, (Text.digit? radix c).isSome ∨ c = '_')
    (hdigit : ∃ c ∈ cs, (Text.digit? radix c).isSome) :
    number? radix (String.ofList cs) = some (Text.valueOf radix cs) := by
  have hne : (cs.filterMap (Text.digit? radix)).isEmpty = false := by
    obtain ⟨c, hc, hsome⟩ := hdigit
    obtain ⟨value, hvalue⟩ := Option.isSome_iff_exists.mp hsome
    rw [List.isEmpty_eq_false_iff]
    exact List.ne_nil_of_mem (List.mem_filterMap.mpr ⟨c, hc, hvalue⟩)
  rw [number?, String.toList_ofList, mapM_figure? hradix hmem]
  simp only [Option.bind_eq_bind, Option.bind_some, Option.pure_def, hne, Bool.false_eq_true,
    if_false, ofDigits_reverse, Text.valueOf]

theorem number?_toString (n : Nat) : number? 10 (toString n) = some n := by
  have hdigits : ∀ c ∈ Nat.toDigits 10 n, c.isDigit :=
    fun c hc => Nat.isDigit_of_mem_toDigits (by decide) (by decide) hc
  have hsome : ∀ c ∈ Nat.toDigits 10 n, (Text.digit? 10 c).isSome := by
    intro c hc
    rw [Interrupt.digit?_of_isDigit (hdigits c hc)]
    rfl
  obtain ⟨c, hc⟩ := List.exists_mem_of_ne_nil _ (Nat.toDigits_ne_nil : Nat.toDigits 10 n ≠ [])
  rw [Nat.toString_eq_repr, ← @String.ofList_toList n.repr, Nat.toList_repr,
    number?_eq_some (by decide) (fun c hc => .inl (hsome c hc)) ⟨c, hc, hsome c hc⟩,
    Interrupt.valueOf_eq_ofDigitChars hdigits, Nat.ofDigitChars_ten_toDigits]

/-! ## Literals and slots -/

theorem number?_numeral (h : base.Numeral digits) :
    number? base.radix (String.ofList digits) = some (base.valueOf digits) := by
  obtain ⟨d, ds, rfl, hd⟩ := h.exists_cons
  exact number?_eq_some (by cases base <;> decide) h.mem ⟨d, List.mem_cons_self, hd⟩

/-- The value of a literal of the table is that of its digits. -/
theorem literal?_based (h : base.Numeral digits) :
    literal? (Literal.based base digits) = some (base.valueOf digits) := by
  have hform : Literal.based base digits =
      "#".intercalate [toString base.radix, String.ofList digits, ""] := by
    rw [← String.toList_inj]
    simp [Literal.based]
  have hsplit : split '#' (Literal.based base digits) =
      [toString base.radix, String.ofList digits, ""] := by
    rw [hform]
    apply split_intercalate rfl (List.cons_ne_nil _ _)
    have hradix : '#' ∉ (toString base.radix).toList := by cases base <;> decide
    have hdigits : '#' ∉ (String.ofList digits).toList := by
      intro hmark
      rw [String.toList_ofList] at hmark
      exact absurd (h.toNat_bounds '#' hmark).1 (by decide)
    simp only [List.forall_mem_cons, List.not_mem_nil, false_implies, implies_true, and_true]
    exact ⟨hradix, hdigits, by decide⟩
  have hne : Literal.based base digits ≠ "0" := by
    intro heq
    have hmark : '#' ∈ (Literal.based base digits).toList := by simp [Literal.based]
    rw [heq] at hmark
    exact absurd hmark (by decide)
  simp only [literal?, if_neg hne, hsplit, number?_toString, number?_numeral h, Option.bind_eq_bind,
    Option.bind_some]

example : literal? "16#4001_1aC0#" = some 0x40011ac0 := rfl

/-- A number of the device list is found again in the literal made from it. -/
theorem literal?_of_forTable {given written : String} (hbits : bits ≤ Literal.widest)
    (h : Literal.forTable given base bits = .ok written) :
    ∃ value, literal? written = some value ∧ Literal.Denotes base given value ∧
      value < 2 ^ bits := by
  rcases Literal.forTable_eq_ok_iff.mp h with ⟨rfl, rfl⟩ | ⟨digits, hnumeral, hfits, rfl, rfl⟩
  · exact ⟨0, rfl, .zero, Nat.two_pow_pos bits⟩
  · rw [Nat.min_eq_left hbits] at hfits
    exact ⟨_, literal?_based hnumeral, .marked hnumeral, hfits⟩

theorem slot?_noInterrupt : slot? Interrupt.noInterrupt = some none := rfl

theorem slot?_reference (n : Nat) : slot? (Interrupt.reference n) = some (some n) := by
  have hne : Interrupt.reference n ≠ "INT_NONE" := by
    intro heq
    have hmark : '(' ∈ (Interrupt.reference n).toList := by
      show '(' ∈ ("t_interrupt'val(" ++ toString n ++ ")").toList
      rw [String.append_assoc, String.toList_append]
      exact List.mem_append_left _ (by decide)
    rw [heq] at hmark
    exact absurd hmark (by decide)
  have hdigits : between? "t_interrupt'val(" ")" (Interrupt.reference n) = some (toString n) :=
    between?_append _ _ _
  simp only [slot?, if_neg hne, hdigits, number?_toString, Option.bind_eq_bind, Option.bind_some,
    Option.pure_def]

theorem mapM_slot?_row {numbers : List Nat} (h : numbers.length ≤ Interrupt.slotCount) :
    (Interrupt.row numbers).toList.mapM slot? =
      some (numbers.map some ++ List.replicate (Interrupt.slotCount - numbers.length) none) := by
  rw [Interrupt.toList_row h, mapM_eq_some_iff]
  apply List.rel_append
  · rw [List.forall₂_map_left_iff, List.forall₂_map_right_iff, List.forall₂_same]
    exact fun n _ => slot?_reference n
  · induction Interrupt.slotCount - numbers.length with
    | zero => exact .nil
    | succ k ih => exact .cons slot?_noInterrupt ih

end PeriphMap.Reading
