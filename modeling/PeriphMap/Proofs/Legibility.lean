import PeriphMap.Proofs.Entries

/-! What the texts of a well-formed entry leave alone: the characters that mark off the parts of the
row in which they stand. -/

namespace PeriphMap

/-! ## Atoms -/

namespace Text

variable {s t : String}

/-- A text with none of the characters that mark off the parts of a row. -/
structure IsAtom (s : String) : Prop where
  comma : ',' ∉ s.toList
  quote : '"' ∉ s.toList
  lineEnd : '\n' ∉ s.toList

theorem isAtom_iff :
    IsAtom s ↔ ',' ∉ s.toList ∧ '"' ∉ s.toList ∧ '\n' ∉ s.toList :=
  ⟨fun ⟨hcomma, hquote, hlineEnd⟩ => ⟨hcomma, hquote, hlineEnd⟩,
    fun ⟨hcomma, hquote, hlineEnd⟩ => ⟨hcomma, hquote, hlineEnd⟩⟩

instance : Decidable (IsAtom s) :=
  decidable_of_iff _ isAtom_iff.symm

theorem IsAtom.append (hs : IsAtom s) (ht : IsAtom t) : IsAtom (s ++ t) := by
  constructor <;> rw [String.toList_append, List.mem_append, not_or]
  · exact ⟨hs.comma, ht.comma⟩
  · exact ⟨hs.quote, ht.quote⟩
  · exact ⟨hs.lineEnd, ht.lineEnd⟩

theorem isAtom_of_toNat (h : ∀ c ∈ s.toList, c = ' ' ∨ 48 ≤ c.toNat) : IsAtom s := by
  constructor
  all_goals
    intro hc
    rcases h _ hc with heq | hle
    · exact absurd heq (by decide)
    · exact absurd hle (by decide)

theorem isAtom_toString (n : Nat) : IsAtom (toString n) := by
  apply isAtom_of_toNat
  intro c hc
  right
  rw [Nat.toString_eq_repr, Nat.toList_repr] at hc
  exact (Char.isDigit_iff_toNat.mp (Nat.isDigit_of_mem_toDigits (by decide) (by decide) hc)).1

end Text

open Text

theorem Identifier.WellFormed.isAtom {word : String} (h : WellFormed word) : IsAtom word :=
  isAtom_of_toNat fun c hc => .inr (h.toNat_bounds c hc).1

theorem Literal.WellFormed.isAtom {base : Base} {bits : Nat} {text : String}
    (h : WellFormed base bits text) : IsAtom text := by
  obtain rfl | ⟨digits, hnumeral, -, rfl⟩ := h
  · exact isAtom_toString 0
  · have hmark : IsAtom "#" := by decide
    refine (((isAtom_toString _).append hmark).append ?_).append hmark
    apply isAtom_of_toNat
    intro c hc
    right
    rw [String.toList_ofList] at hc
    exact (hnumeral.toNat_bounds c hc).1

theorem Interrupt.isAtom_reference (n : Nat) : IsAtom (reference n) := by
  have hopen : IsAtom "t_interrupt'val(" := by decide
  have hclose : IsAtom ")" := by decide
  exact (hopen.append (isAtom_toString n)).append hclose

theorem Interrupt.WellFormed.isAtom {slotTexts : Vector String slotCount}
    (h : WellFormed slotTexts) : ∀ text ∈ slotTexts.toList, IsAtom text := by
  obtain ⟨numbers, -, -, hslots⟩ := h
  intro text htext
  rw [hslots, List.mem_append, List.mem_map] at htext
  obtain ⟨n, -, rfl⟩ | hnone := htext
  · exact isAtom_reference n
  · rw [List.eq_of_mem_replicate hnone]
    decide

/-- An entry that shows in a row as it is. -/
structure Entry.Legible (entry : Entry) : Prop where
  identifier : IsAtom entry.identifier
  unspaced : ' ' ∉ entry.identifier.toList
  paddedName : IsAtom entry.paddedName
  address : IsAtom entry.address
  size : IsAtom entry.size
  subregions : IsAtom entry.subregions
  interrupts : ∀ text ∈ entry.interrupts.toList, IsAtom text

theorem Entry.WellFormed.legible {config : Config} {entry : Entry} (h : WellFormed config entry) :
    entry.Legible where
  identifier := h.identifier.wellFormed.isAtom
  unspaced hspace := absurd (h.identifier.wellFormed.toNat_bounds _ hspace).1 (by decide)
  paddedName := isAtom_of_toNat fun c hc => by
    rw [h.paddedName, List.mem_append] at hc
    rcases hc with hc | hc
    · exact .inr (h.identifier.wellFormed.toNat_bounds c (List.mem_of_mem_take hc)).1
    · exact .inl (List.eq_of_mem_replicate hc)
  address := h.address.isAtom
  size := h.size.isAtom
  subregions := h.subregions.isAtom
  interrupts := h.interrupts.isAtom

end PeriphMap
