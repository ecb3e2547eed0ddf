import PeriphMap.Identifier
import PeriphMap.Proofs.Texts

/-! Which words are identifiers of the table. The checks on a word, taken together, amount to a
grammar, and a word that passes them takes one byte a character. -/

namespace PeriphMap.Identifier

variable {word name : String} {c : Char} {cs : List Char}

/-! ## The grammar -/

/-- The characters that stand between underscores. -/
def IsPlain (c : Char) : Prop :=
  c.isUpper ∨ c.isDigit

/-- What follows the first letter: capitals and digits, each with at most one underscore
before it. -/
inductive Tail : List Char → Prop where
  | nil : Tail []
  | next {c : Char} {cs : List Char} : IsPlain c → Tail cs → Tail (c :: cs)
  | joined {c : Char} {cs : List Char} : IsPlain c → Tail cs → Tail ('_' :: c :: cs)

/-- An Ada identifier in capitals. -/
def WellFormed (word : String) : Prop :=
  ∃ first rest, word.toList = first :: rest ∧ first.isUpper ∧ Tail rest

/-- The words that the table may use. -/
structure Valid (word : String) : Prop where
  wellFormed : WellFormed word
  unreserved : lowercase word ∉ reservedWords
  notSentinel : word ≠ noPeripheral

theorem IsPlain.ne_underscore (h : IsPlain c) : c ≠ '_' := by
  rintro rfl
  revert h
  simp [IsPlain]

theorem Tail.mem (h : Tail cs) : ∀ c ∈ cs, IsPlain c ∨ c = '_' := by
  induction h with
  | nil => simp
  | next hc _ ih =>
    intro d hd
    cases hd with
    | head => exact .inl hc
    | tail _ hd => exact ih d hd
  | joined hc _ ih =>
    intro d hd
    rcases hd with _ | ⟨_, _ | ⟨_, hd⟩⟩
    · exact .inr rfl
    · exact .inl hc
    · exact ih d hd

/-! ## The checks -/

/-- What is checked of the characters behind the first one. -/
private structure PassesChecks (cs : List Char) : Prop where
  mem : ∀ c ∈ cs, IsPlain c ∨ c = '_'
  single : hasConsecutiveUnderscores cs = false
  last : cs.getLast? ≠ some '_'

private theorem consecutive_cons (hc : c ≠ '_') :
    hasConsecutiveUnderscores (c :: cs) = hasConsecutiveUnderscores cs := by
  rw [hasConsecutiveUnderscores]
  exact fun _ h _ => hc h

private theorem getLast?_cons_iff (hc : c ≠ '_') :
    (c :: cs).getLast? = some '_' ↔ cs.getLast? = some '_' := by
  cases cs with
  | nil => simp [hc]
  | cons d cs => rw [List.getLast?_cons_cons]

private theorem passesChecks_cons (hc : IsPlain c) :
    PassesChecks (c :: cs) ↔ PassesChecks cs := by
  constructor
  · intro h
    obtain ⟨hmem, hsingle, hlast⟩ := h
    refine ⟨fun d hd => hmem d (List.mem_cons_of_mem _ hd), ?_, ?_⟩
    · rwa [consecutive_cons hc.ne_underscore] at hsingle
    · rwa [ne_eq, getLast?_cons_iff hc.ne_underscore] at hlast
  · intro h
    obtain ⟨hmem, hsingle, hlast⟩ := h
    refine ⟨?_, ?_, ?_⟩
    · intro d hd
      cases hd with
      | head => exact .inl hc
      | tail _ hd => exact hmem d hd
    · rwa [consecutive_cons hc.ne_underscore]
    · rwa [ne_eq, getLast?_cons_iff hc.ne_underscore]

/-- An underscore is neither the last character nor followed by another one. -/
private theorem passesChecks_underscore :
    PassesChecks ('_' :: cs) ↔ ∃ d rest, cs = d :: rest ∧ IsPlain d ∧ PassesChecks rest := by
  constructor
  · intro h
    obtain ⟨hmem, hsingle, hlast⟩ := h
    cases cs with
    | nil => exact absurd rfl hlast
    | cons d rest =>
      have hd : IsPlain d := by
        refine (hmem d (List.mem_cons_of_mem _ List.mem_cons_self)).resolve_right ?_
        rintro rfl
        simp [hasConsecutiveUnderscores] at hsingle
      refine ⟨d, rest, rfl, hd, (passesChecks_cons hd).mp ⟨?_, ?_, ?_⟩⟩
      · exact fun e he => hmem e (List.mem_cons_of_mem _ he)
      · rwa [hasConsecutiveUnderscores] at hsingle
        exact fun _ _ h => hd.ne_underscore (List.cons.inj h).1
      · rwa [List.getLast?_cons_cons] at hlast
  · intro h
    obtain ⟨d, rest, rfl, hd, h⟩ := h
    obtain ⟨hmem, hsingle, hlast⟩ := (passesChecks_cons hd).mpr h
    refine ⟨?_, ?_, ?_⟩
    · intro e he
      cases he with
      | head => exact .inr rfl
      | tail _ he => exact hmem e he
    · rwa [hasConsecutiveUnderscores]
      exact fun _ _ h => hd.ne_underscore (List.cons.inj h).1
    · rwa [List.getLast?_cons_cons]

private theorem tail_of_passesChecks : ∀ {cs : List Char}, PassesChecks cs → Tail cs
  | [], _ => .nil
  | c :: cs, h => by
    rcases h.mem c List.mem_cons_self with hc | rfl
    · exact .next hc (tail_of_passesChecks ((passesChecks_cons hc).mp h))
    · obtain ⟨d, rest, rfl, hd, h'⟩ := passesChecks_underscore.mp h
      exact .joined hd (tail_of_passesChecks h')

private theorem passesChecks_iff_tail : PassesChecks cs ↔ Tail cs := by
  refine ⟨tail_of_passesChecks, fun h => ?_⟩
  induction h with
  | nil => exact ⟨by simp, rfl, by simp⟩
  | next hc _ ih => exact (passesChecks_cons hc).mpr ih
  | joined hc _ ih => exact passesChecks_underscore.mpr ⟨_, _, rfl, hc, ih⟩

/-- The character class of the checks, on capitals. -/
private theorem isAlphanum_iff (hc : c.isLower = false) :
    (c.isAlphanum || c == '_') = true ↔ IsPlain c ∨ c = '_' := by
  simp [Char.isAlphanum, Char.isAlpha, hc, IsPlain, or_assoc]

/-- The first five checks together. -/
private theorem formChecks_iff (hcaps : ∀ c ∈ cs, c.isLower = false) :
    ((cs ≠ [] ∧ cs.head?.all Char.isAlpha) ∧ (cs.all fun c => c.isAlphanum || c == '_') ∧
      hasConsecutiveUnderscores cs = false ∧ cs.getLast? ≠ some '_') ↔
      ∃ first rest, cs = first :: rest ∧ first.isUpper ∧ Tail rest := by
  have hchecks : ((cs.all fun c => c.isAlphanum || c == '_') ∧
      hasConsecutiveUnderscores cs = false ∧ cs.getLast? ≠ some '_') ↔ PassesChecks cs := by
    rw [List.all_eq_true]
    constructor
    · intro h
      obtain ⟨hmem, hsingle, hlast⟩ := h
      exact ⟨fun c hc => (isAlphanum_iff (hcaps c hc)).mp (hmem c hc), hsingle, hlast⟩
    · intro h
      obtain ⟨hmem, hsingle, hlast⟩ := h
      exact ⟨fun c hc => (isAlphanum_iff (hcaps c hc)).mpr (hmem c hc), hsingle, hlast⟩
  rw [hchecks]
  cases cs with
  | nil => simp
  | cons first rest =>
    have hfirst : first.isAlpha = first.isUpper := by
      rw [Char.isAlpha, hcaps first List.mem_cons_self, Bool.or_false]
    simp only [ne_eq, reduceCtorEq, not_false_eq_true, true_and, List.head?_cons,
      Option.all_some, hfirst, List.cons.injEq]
    constructor
    · intro h
      obtain ⟨hupper, h⟩ := h
      exact ⟨first, rest, ⟨rfl, rfl⟩, hupper,
        passesChecks_iff_tail.mp ((passesChecks_cons (.inl hupper)).mp h)⟩
    · intro h
      obtain ⟨_, _, ⟨rfl, rfl⟩, hupper, h⟩ := h
      exact ⟨hupper, (passesChecks_cons (.inl hupper)).mpr (passesChecks_iff_tail.mpr h)⟩

private theorem ite_some_eq_none_iff {α : Type} {p : Prop} [Decidable p] {a : α} {x : Option α} :
    (if p then some a else x) = none ↔ ¬p ∧ x = none := by
  split <;> simp_all

/-- A word in capitals passes the checks if and only if the table may use it. -/
theorem fault?_eq_none_iff (hcaps : ∀ c ∈ word.toList, c.isLower = false) :
    fault? word = none ↔ Valid word := by
  have hform := formChecks_iff hcaps
  simp only [fault?, ite_some_eq_none_iff, List.isEmpty_iff, Bool.not_eq_true, Bool.not_eq_true',
    Bool.not_eq_false, and_true]
  constructor
  · intro h
    obtain ⟨hempty, hfirst, hall, hsingle, hlast, hreserved, hsentinel⟩ := h
    exact ⟨hform.mp ⟨⟨hempty, hfirst⟩, hall, hsingle, hlast⟩, hreserved, hsentinel⟩
  · intro h
    obtain ⟨hword, hreserved, hsentinel⟩ := h
    obtain ⟨⟨hempty, hfirst⟩, hall, hsingle, hlast⟩ := hform.mpr hword
    exact ⟨hempty, hfirst, hall, hsingle, hlast, hreserved, hsentinel⟩

theorem isLower_of_mem_spelling (h : c ∈ (spelling name).toList) : c.isLower = false := by
  simp only [spelling, String.toList_ofList, List.mem_map] at h
  obtain ⟨d, hd, rfl⟩ := h
  split
  · rfl
  · exact Text.isLower_of_mem_uppercase hd

theorem ofName_eq_ok_iff : ofName name = .ok word ↔ spelling name = word ∧ Valid word := by
  have hfault : fault? (spelling name) = none ↔ Valid (spelling name) :=
    fault?_eq_none_iff fun _ => isLower_of_mem_spelling
  unfold ofName
  split
  next hnone =>
    rw [Except.ok.injEq]
    exact ⟨fun h => ⟨h, h ▸ hfault.mp hnone⟩, And.left⟩
  next fault hsome =>
    refine ⟨nofun, ?_⟩
    intro h
    obtain ⟨rfl, hvalid⟩ := h
    rw [hfault.mpr hvalid] at hsome
    contradiction

/-! ## Identifiers as texts -/

theorem IsPlain.toNat_bounds (h : IsPlain c) : 48 ≤ c.toNat ∧ c.toNat ≤ 90 := by
  rcases h with h | h
  · simp only [Char.isUpper, UInt32.le_iff_toNat_le, ge_iff_le, Bool.decide_and, Bool.and_eq_true,
      decide_eq_true_eq] at h
    exact ⟨Nat.le_trans (by decide) h.1, h.2⟩
  · have := Char.isDigit_iff_toNat.mp h
    exact ⟨this.1, Nat.le_trans this.2 (by decide)⟩

theorem WellFormed.mem (h : WellFormed word) : ∀ c ∈ word.toList, IsPlain c ∨ c = '_' := by
  obtain ⟨first, rest, hword, hupper, htail⟩ := h
  rw [hword]
  intro c hc
  cases hc with
  | head => exact .inl (.inl hupper)
  | tail _ hc => exact htail.mem c hc

theorem WellFormed.toNat_bounds (h : WellFormed word) :
    ∀ c ∈ word.toList, 48 ≤ c.toNat ∧ c.toNat ≤ 95 := by
  intro c hc
  rcases h.mem c hc with hplain | rfl
  · have := hplain.toNat_bounds
    omega
  · decide

theorem WellFormed.utf8ByteSize_eq (h : WellFormed word) : word.utf8ByteSize = word.length :=
  Text.utf8ByteSize_eq_length fun c hc => by
    have := h.toNat_bounds c hc
    omega

/-- Capitals are found again from their small letters. -/
theorem map_toUpper_lowercase (h : ∀ c ∈ word.toList, c.isLower = false) :
    (lowercase word).toList.map Char.toUpper = word.toList := by
  rw [lowercase, String.toList_ofList, List.map_map]
  refine (List.map_congr_left fun c hc => ?_).trans (List.map_id _)
  rw [Function.comp_apply, Char.toUpper_toLower_eq_toUpper,
    Char.toUpper_eq_of_not_isLower (by simp [h c hc]), id]

/-- Ada does not tell small letters from capitals. For words in capitals this makes no
difference. -/
theorem lowercase_inj {word' : String} (h : ∀ c ∈ word.toList, c.isLower = false)
    (h' : ∀ c ∈ word'.toList, c.isLower = false) :
    lowercase word = lowercase word' ↔ word = word' := by
  refine ⟨fun heq => ?_, fun heq => heq ▸ rfl⟩
  rw [← String.toList_inj, ← map_toUpper_lowercase h, ← map_toUpper_lowercase h', heq]

theorem WellFormed.isLower_of_mem (h : WellFormed word) : ∀ c ∈ word.toList, c.isLower = false := by
  intro c hc
  rw [Bool.eq_false_iff, ne_eq, Text.isLower_iff_toNat]
  have := h.toNat_bounds c hc
  omega

/-- Words in capitals that differ are different names to a compiler. -/
theorem nodup_map_lowercase {words : List String}
    (h : ∀ word ∈ words, ∀ c ∈ word.toList, c.isLower = false) (hnodup : words.Nodup) :
    (words.map lowercase).Nodup :=
  hnodup.map_on fun word hword word' hword' =>
    (lowercase_inj (h word hword) (h word' hword')).mp

end PeriphMap.Identifier
