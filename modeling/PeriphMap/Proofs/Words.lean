import PeriphMap.Proofs.Literals

/-! Words of a fixed number of bits. Digits are read into a word one after the other, and the
reading ends where a product or a sum does not fit. Nothing that comes later makes a number smaller,
so what can be read is exactly what fits, however many digits there are. -/

namespace PeriphMap.Text

variable {width radix digit n : Nat} {c : Char} {cs : List Char} {word : BitVec width}

/-! ## Arithmetic -/

/-- The word for a number, if the number fits. -/
def wordOf? (width n : Nat) : Option (BitVec width) :=
  if n < 2 ^ width then some (.ofNat width n) else none

def mul? (x y : BitVec width) : Option (BitVec width) :=
  if x.umulOverflow y then none else some (x * y)

def add? (x y : BitVec width) : Option (BitVec width) :=
  if x.uaddOverflow y then none else some (x + y)

def sub? (x y : BitVec width) : Option (BitVec width) :=
  if x.usubOverflow y then none else some (x - y)

theorem wordOf?_eq_some_iff : wordOf? width n = some word ↔ word.toNat = n := by
  unfold wordOf?
  split
  next hfits =>
    rw [Option.some.injEq, BitVec.toNat_eq, BitVec.toNat_ofNat, Nat.mod_eq_of_lt hfits]
    exact eq_comm
  next hwide =>
    refine ⟨nofun, ?_⟩
    rintro rfl
    exact absurd word.isLt hwide

theorem wordOf?_eq_none_iff : wordOf? width n = none ↔ 2 ^ width ≤ n := by
  unfold wordOf?
  split <;> simp_all

theorem exists_wordOf?_eq_some (h : n < 2 ^ width) :
    ∃ word, wordOf? width n = some word ∧ word.toNat = n := by
  have hword : wordOf? width n = some (.ofNat width n) := if_pos h
  exact ⟨_, hword, wordOf?_eq_some_iff.mp hword⟩

theorem mul?_eq (x y : BitVec width) : mul? x y = wordOf? width (x.toNat * y.toNat) := by
  unfold mul?
  split
  next hwide =>
    apply Eq.symm
    apply wordOf?_eq_none_iff.mpr
    simpa [BitVec.umulOverflow] using hwide
  next hfits =>
    apply Eq.symm
    apply wordOf?_eq_some_iff.mpr
    simp only [BitVec.umulOverflow, ge_iff_le, decide_eq_true_eq, Nat.not_le] at hfits
    rw [BitVec.toNat_mul, Nat.mod_eq_of_lt hfits]

theorem add?_eq (x y : BitVec width) : add? x y = wordOf? width (x.toNat + y.toNat) := by
  unfold add?
  split
  next hwide =>
    apply Eq.symm
    apply wordOf?_eq_none_iff.mpr
    simpa [BitVec.uaddOverflow] using hwide
  next hfits =>
    apply Eq.symm
    apply wordOf?_eq_some_iff.mpr
    simp only [BitVec.uaddOverflow, ge_iff_le, decide_eq_true_eq, Nat.not_le] at hfits
    rw [BitVec.toNat_add, Nat.mod_eq_of_lt hfits]

theorem sub?_eq_of_le {x y : BitVec width} (h : y.toNat ≤ x.toNat) :
    sub? x y = wordOf? width (x.toNat - y.toNat) := by
  have hfits : x.usubOverflow y = false := decide_eq_false (Nat.not_lt_of_le h)
  rw [sub?, hfits]
  exact (wordOf?_eq_some_iff.mpr (BitVec.toNat_sub_of_le h)).symm

/-! ## Digits -/

/-- A word with one more digit behind those that were read into it before. -/
def append? (radix : Nat) (word : BitVec width) (c : Char) : Option (BitVec width) := do
  let digit ← digit? radix c
  let scaled ← mul? word (.ofNat width radix)
  add? scaled (.ofNat width digit)

/-- Digits read into a word, the most significant one first. -/
def word? (width radix : Nat) (digits : List Char) : Option (BitVec width) :=
  digits.foldlM (append? radix) 0

theorem digit?_lt (h : digit? radix c = some digit) : digit < radix := by
  obtain ⟨-, hlt⟩ := Option.filter_eq_some_iff.mp h
  exact of_decide_eq_true hlt

theorem append?_eq (hradix : radix < 2 ^ width) (h : digit? radix c = some digit) :
    append? radix word c = wordOf? width (word.toNat * radix + digit) := by
  have hdigit : (BitVec.ofNat width digit).toNat = digit :=
    (BitVec.toNat_ofNat ..).trans (Nat.mod_eq_of_lt ((digit?_lt h).trans hradix))
  have hscale : (BitVec.ofNat width radix).toNat = radix :=
    (BitVec.toNat_ofNat ..).trans (Nat.mod_eq_of_lt hradix)
  simp only [append?, h, mul?_eq, hscale, Option.bind_eq_bind, Option.bind_some]
  cases hscaled : wordOf? width (word.toNat * radix) with
  | none =>
    rw [wordOf?_eq_none_iff] at hscaled
    exact (wordOf?_eq_none_iff.mpr (Nat.le_add_right_of_le hscaled)).symm
  | some scaled => rw [Option.bind_some, add?_eq, hdigit, wordOf?_eq_some_iff.mp hscaled]

/-- A number does not get smaller by the digits behind it. -/
theorem le_foldl (hradix : 0 < radix) (n : Nat) (digits : List Nat) :
    n ≤ digits.foldl (fun value digit => value * radix + digit) n := by
  induction digits generalizing n with
  | nil => exact Nat.le_refl n
  | cons digit digits ih =>
    calc n
      _ ≤ n * radix := Nat.le_mul_of_pos_right n hradix
      _ ≤ n * radix + digit := Nat.le_add_right _ _
      _ ≤ _ := ih _

/-- What can be read into a word is what fits in it. -/
theorem word?_eq (hpos : 0 < radix) (hradix : radix < 2 ^ width)
    (h : ∀ c ∈ cs, (digit? radix c).isSome) :
    word? width radix cs = wordOf? width (valueOf radix cs) := by
  have hfrom : ∀ word : BitVec width, cs.foldlM (append? radix) word = wordOf? width
      ((cs.filterMap (digit? radix)).foldl (fun value digit => value * radix + digit)
        word.toNat) := by
    induction cs with
    | nil => exact fun word => (wordOf?_eq_some_iff.mpr rfl).symm
    | cons c cs ih =>
      intro word
      obtain ⟨digit, hdigit⟩ := Option.isSome_iff_exists.mp (h c List.mem_cons_self)
      rw [List.foldlM_cons, append?_eq hradix hdigit, List.filterMap_cons_some hdigit,
        List.foldl_cons]
      cases hnext : wordOf? width (word.toNat * radix + digit) with
      | none =>
        rw [wordOf?_eq_none_iff] at hnext
        exact (wordOf?_eq_none_iff.mpr (hnext.trans (le_foldl hpos _ _))).symm
      | some next =>
        rw [← wordOf?_eq_some_iff.mp hnext]
        exact ih (fun d hd => h d (List.mem_cons_of_mem _ hd)) next
  exact hfrom 0

end PeriphMap.Text
