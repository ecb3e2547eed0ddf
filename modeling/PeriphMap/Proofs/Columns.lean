import PeriphMap.Proofs.Words
import PeriphMap.Text.Basic

/-! Texts set in columns. The spaces at the end of a column may be filling or may be in the text, so
a column shows the characters in front of them and nothing more. -/

namespace PeriphMap.Text

variable {s t : String} {width width₁ width₂ bits : Nat}

@[simp] theorem toList_fit (s : String) (width : Nat) :
    (fit s width).toList =
      s.toList.take width ++ List.replicate (width - s.length) ' ' := by
  simp only [fit, List.rightpad, String.toList_ofList, List.length_take, String.length_toList]
  congr 2
  omega

theorem eq_fit_iff : t = fit s width ↔
    t.toList = s.toList.take width ++ List.replicate (width - s.length) ' ' := by
  rw [← String.toList_inj, toList_fit]

@[simp] theorem length_fit (s : String) (width : Nat) : (fit s width).length = width := by
  rw [← String.length_toList, toList_fit, List.length_append, List.length_take,
    List.length_replicate, String.length_toList]
  omega

@[simp] theorem toList_alignLeft (s : String) (width : Nat) :
    (alignLeft s width).toList = s.toList ++ List.replicate (width - s.length) ' ' := by
  simp only [alignLeft, List.rightpad, String.toList_ofList, String.length_toList]

theorem mem_fit {c : Char} (h : c ∈ (fit s width).toList) : c ∈ s.toList ∨ c = ' ' := by
  rw [toList_fit, List.mem_append] at h
  exact h.imp List.mem_of_mem_take List.eq_of_mem_replicate

/-- Texts that are not wider than a column are set in it in the same way whether or not wider ones
are cut. -/
theorem alignLeft_eq_fit (h : s.length ≤ width) : alignLeft s width = fit s width := by
  rw [alignLeft, fit, List.take_of_length_le (String.length_toList ▸ h)]

/-- A column may be set in another one first, if that one does not cut what the other shows. -/
theorem fit_fit (h : width₂ ≤ width₁ ∨ s.length ≤ width₁) :
    fit (fit s width₁) width₂ = fit s width₂ := by
  -- either the first column is as wide as the second one, or there is nothing that it cuts
  have hkept : s.toList.take (min width₂ width₁) = s.toList.take width₂ := by
    rcases h with hnarrow | hshort
    · rw [Nat.min_eq_left hnarrow]
    · have hall : s.toList.take width₁ = s.toList :=
        List.take_of_length_le (String.length_toList ▸ hshort)
      rw [← List.take_take, hall]
  rw [eq_fit_iff, toList_fit, toList_fit, length_fit, List.take_append, List.take_take, hkept,
    List.take_replicate, List.append_assoc, List.replicate_append_replicate, List.length_take,
    String.length_toList]
  congr 2
  omega

/-! ## Trailing spaces -/

/-- What a column shows of a text: the first characters, without the spaces at their end. -/
def apparent (s : String) (width : Nat) : List Char :=
  (s.toList.take width).rdropWhile (· = ' ')

theorem rdropWhile_append_replicate (cs : List Char) (n : Nat) :
    (cs ++ List.replicate n ' ').rdropWhile (· = ' ') = cs.rdropWhile (· = ' ') := by
  induction n with
  | zero => rw [List.replicate_zero, List.append_nil]
  | succ n ih =>
    rw [List.replicate_succ', ← List.append_assoc, List.rdropWhile_concat_pos _ _ _ rfl, ih]

theorem exists_eq_rdropWhile_append (cs : List Char) :
    ∃ n, cs = cs.rdropWhile (· = ' ') ++ List.replicate n ' ' := by
  have hspaces : ∀ c ∈ cs.rtakeWhile (· = ' '), c = ' ' :=
    fun c hc => of_decide_eq_true (List.mem_rtakeWhile_imp (p := (· = ' ')) hc)
  refine ⟨(cs.rtakeWhile (· = ' ')).length, ?_⟩
  rw [← List.eq_replicate_of_mem hspaces, List.rdropWhile_append_rtakeWhile]

theorem rdropWhile_toList_fit (s : String) (width : Nat) :
    (fit s width).toList.rdropWhile (· = ' ') = apparent s width := by
  rw [toList_fit, rdropWhile_append_replicate, apparent]

/-- A column is what it shows, filled up. -/
theorem toList_fit_eq_rightpad (s : String) (width : Nat) :
    (fit s width).toList = (apparent s width).rightpad width ' ' := by
  obtain ⟨n, hcolumn⟩ := exists_eq_rdropWhile_append (fit s width).toList
  rw [rdropWhile_toList_fit] at hcolumn
  have hlength := congrArg List.length hcolumn
  rw [String.length_toList, length_fit, List.length_append, List.length_replicate] at hlength
  rw [hcolumn, List.rightpad]
  congr 2
  omega

theorem fit_eq_fit_iff : fit s width = fit t width ↔ apparent s width = apparent t width := by
  constructor
  · intro heq
    rw [← rdropWhile_toList_fit, heq, rdropWhile_toList_fit]
  · intro heq
    rw [← String.toList_inj, toList_fit_eq_rightpad, heq, toList_fit_eq_rightpad]

/-! ## Texts without spaces -/

theorem apparent_of_unspaced (hspace : ' ' ∉ s.toList) : apparent s width = s.toList.take width := by
  refine List.rdropWhile_eq_self_iff.mpr fun hne hlast => hspace ?_
  rw [← of_decide_eq_true hlast]
  exact List.mem_of_mem_take (List.getLast_mem hne)

/-- Texts without spaces look the same in a column when they begin in the same way. -/
theorem fit_eq_fit_iff_of_unspaced (hs : ' ' ∉ s.toList) (ht : ' ' ∉ t.toList) :
    fit s width = fit t width ↔ s.toList.take width = t.toList.take width := by
  rw [fit_eq_fit_iff, apparent_of_unspaced hs, apparent_of_unspaced ht]

/-- Texts without spaces that fit a column differ there. -/
theorem fit_inj (hs : ' ' ∉ s.toList) (ht : ' ' ∉ t.toList) (hsfits : s.length ≤ width)
    (htfits : t.length ≤ width) : fit s width = fit t width ↔ s = t := by
  rw [fit_eq_fit_iff_of_unspaced hs ht, List.take_of_length_le (String.length_toList ▸ hsfits),
    List.take_of_length_le (String.length_toList ▸ htfits), String.toList_inj]

/-- Different texts without spaces look the same in a column only if one of them is cut. -/
theorem lt_length_of_fit_eq_fit (hs : ' ' ∉ s.toList) (ht : ' ' ∉ t.toList) (hne : s ≠ t)
    (heq : fit s width = fit t width) : width < s.length ∨ width < t.length := by
  by_contra hfits
  rw [not_or, Nat.not_lt, Nat.not_lt] at hfits
  exact hne ((fit_inj hs ht hfits.1 hfits.2).mp heq)

theorem fit_eq_fit_iff_of_ne (hs : ' ' ∉ s.toList) (ht : ' ' ∉ t.toList) (hne : s ≠ t) :
    fit s width = fit t width ↔
      width ≤ s.length ∧ width ≤ t.length ∧ s.toList.take width = t.toList.take width := by
  rw [fit_eq_fit_iff_of_unspaced hs ht]
  refine ⟨fun heq => ?_, fun h => h.2.2⟩
  have hwide := lt_length_of_fit_eq_fit hs ht hne ((fit_eq_fit_iff_of_unspaced hs ht).mpr heq)
  have hlength := congrArg List.length heq
  rw [List.length_take, List.length_take, String.length_toList, String.length_toList] at hlength
  exact ⟨by omega, by omega, heq⟩

/-! ## Widths in words -/

/-- A text in a column whose width is a word. The characters that are kept are counted in a word as
well, and the filling is what the width has more. -/
def fit? (s : String) (width : BitVec bits) : Option String := do
  let kept := s.toList.take width.toNat
  let count ← wordOf? bits kept.length
  let missing ← sub? width count
  return String.ofList (kept ++ List.replicate missing.toNat ' ')

theorem fit?_eq (s : String) (width : BitVec bits) : fit? s width = some (fit s width.toNat) := by
  have hle : (s.toList.take width.toNat).length ≤ width.toNat := List.length_take_le ..
  obtain ⟨count, hcount, hcounted⟩ := exists_wordOf?_eq_some (Nat.lt_of_le_of_lt hle width.isLt)
  obtain ⟨missing, hmissing, hmissed⟩ := exists_wordOf?_eq_some
    (Nat.lt_of_le_of_lt (Nat.sub_le width.toNat (s.toList.take width.toNat).length) width.isLt)
  have hdifference : sub? width count = some missing := by
    rw [sub?_eq_of_le (hcounted ▸ hle), hcounted, hmissing]
  simp only [fit?, hcount, hdifference, hmissed, Option.bind_eq_bind, Option.bind_some]
  rfl

/-- In a column every text gets the same number of characters, and what can be told of it is its
first characters, up to spaces at their end. -/
theorem fit_shows (s t : String) (width width₁ width₂ : Nat) :
    (fit s width).length = width ∧
    (∃ n, (fit s width).toList = s.toList.take width ++ List.replicate n ' ') ∧
    (∀ {bits : Nat} (word : BitVec bits), fit? s word = some (fit s word.toNat)) ∧
    (width₂ ≤ width₁ ∨ s.length ≤ width₁ → fit (fit s width₁) width₂ = fit s width₂) ∧
    (fit s width = fit t width ↔
      (s.toList.take width).rdropWhile (· = ' ') = (t.toList.take width).rdropWhile (· = ' ')) :=
  ⟨length_fit s width, ⟨width - s.length, toList_fit s width⟩, fit?_eq s, fit_fit, fit_eq_fit_iff⟩

/-- Characters of more than one byte, and spaces that may be filling. -/
theorem fit_shows_umlaut :
    (fit "Übersicht" 4).length = 4 ∧ fit? "Übersicht" (4 : BitVec 8) = some "Über" ∧
    fit (fit "Übersicht" 6) 4 = "Über" ∧ fit (fit "Über" 6) 9 = fit "Über" 9 ∧
    fit "Über" 6 = fit "Über  2" 6 ∧ fit "Über" 7 ≠ fit "Über  2" 7 := by
  have hword : fit "Übersicht" 4 = "Über" := by decide +kernel
  obtain ⟨hlength, -, hwords, hnarrow, -⟩ := fit_shows "Übersicht" "Über" 4 6 4
  obtain ⟨-, -, -, hwide, hsame⟩ := fit_shows "Über" "Über  2" 6 6 9
  obtain ⟨-, -, -, -, hdiffers⟩ := fit_shows "Über" "Über  2" 7 6 9
  refine ⟨hlength, ?_, ?_, ?_, ?_, ?_⟩
  · exact (hwords (4 : BitVec 8)).trans (congrArg some hword)
  · exact (hnarrow (.inl (by decide))).trans hword
  · exact hwide (.inr (by decide))
  · exact hsame.mpr (by decide)
  · exact fun heq => absurd (hdiffers.mp heq) (by decide)

end PeriphMap.Text
