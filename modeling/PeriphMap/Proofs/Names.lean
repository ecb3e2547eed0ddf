import PeriphMap.Proofs.Identifiers

/-! Which device names have an identifier, and which names have the same one. The rules for
identifiers are tried in a fixed order, so that a name without an identifier is refused by the first
rule that its spelling breaks. -/

namespace PeriphMap

/-! ## Capitals -/

namespace Text

variable {c d : Char} {code n : Nat}

/-- The characters beyond ASCII whose capitals are letters of ASCII: the sharp s, the dotless i, the
long s, and the ligatures. -/
def asciiCapitalized : List Nat :=
  [0xDF, 0x131, 0x17F, 0xFB00, 0xFB01, 0xFB02, 0xFB03, 0xFB04, 0xFB05, 0xFB06]

theorem capitals_of_ascii (hc : c.toNat < 128) : capitals c = [c.toUpper] :=
  if_pos hc

theorem isValidChar_of_mem_capitalCodes (hcode : code.isValidChar) (h : n ∈ capitalCodes code) :
    n.isValidChar := by
  obtain ⟨p, hp, -, hcodes⟩ | ⟨run, hrun, hfirst, hlast, hcodes⟩ | hcodes :=
    capitalCodes_cases code
  · have hall : ∀ p ∈ caseExpansions, ∀ n ∈ p.2, n.isValidChar := by decide +kernel
    exact hall p hp n (hcodes ▸ h)
  · have hall : ∀ run ∈ caseRuns, run.capital + (run.last - run.first) < 0xD800 ∨
        0xDFFF < run.capital ∧ run.capital + (run.last - run.first) < 0x110000 := by
      decide +kernel
    have := hall run hrun
    rw [hcodes, List.mem_singleton] at h
    unfold Nat.isValidChar
    omega
  · rw [hcodes, List.mem_singleton] at h
    exact h ▸ hcode

/-- Hardly any character beyond ASCII has capitals in ASCII. -/
theorem capitalCodes_ascii_iff (hcode : 128 ≤ code) :
    (∀ n ∈ capitalCodes code, n < 128) ↔ code ∈ asciiCapitalized := by
  constructor
  · intro h
    obtain ⟨p, hp, rfl, hcodes⟩ | ⟨run, hrun, hfirst, hlast, hcodes⟩ | hcodes :=
      capitalCodes_cases code
    · have hall : ∀ p ∈ caseExpansions, (∀ n ∈ p.2, n < 128) → p.1 ∈ asciiCapitalized := by
        decide +kernel
      exact hall p hp (hcodes ▸ h)
    · have hall : ∀ run ∈ caseRuns,
          128 ≤ run.capital ∨ run.last ≤ run.first ∧ run.first ∈ asciiCapitalized := by
        decide +kernel
      rw [hcodes, List.forall_mem_singleton] at h
      rcases hall run hrun with hwide | ⟨hsingle, hmem⟩
      · omega
      · have heq : code = run.first := by omega
        rwa [heq]
    · rw [hcodes, List.forall_mem_singleton] at h
      omega
  · have hall : ∀ code ∈ asciiCapitalized, ∀ n ∈ capitalCodes code, n < 128 := by decide +kernel
    exact hall code

theorem capitals_ascii_iff (hc : 128 ≤ c.toNat) :
    (∀ d ∈ capitals c, d.toNat < 128) ↔ c.toNat ∈ asciiCapitalized := by
  have hcapitals : capitals c = (capitalCodes c.toNat).map Char.ofNat :=
    if_neg (Nat.not_lt_of_le hc)
  rw [← capitalCodes_ascii_iff hc, hcapitals, List.forall_mem_map]
  refine forall₂_congr fun n hn => ?_
  rw [Char.toNat_ofNat, if_pos (isValidChar_of_mem_capitalCodes c.valid hn)]

end Text

namespace Identifier

variable {name word : String} {c d : Char} {cs : List Char} {fault : Fault}

/-! ## Rules -/

/-- What a word does that breaks a rule. -/
def Breaks (word : String) : Fault → Prop
  | .empty => word = ""
  | .firstCharacter => ∃ c ∈ word.toList.head?, c.isAlpha = false
  | .alphabet => ∃ c ∈ word.toList, c.isAlphanum = false ∧ c ≠ '_'
  | .consecutiveUnderscores => ['_', '_'] <:+: word.toList
  | .trailingUnderscore => ['_'] <:+ word.toList
  | .reservedWord => lowercase word ∈ reservedWords
  | .sentinel => word = noPeripheral

/-- The rules in the order in which they are tried. -/
def rules : List Fault := [
  .empty, .firstCharacter, .alphabet, .consecutiveUnderscores, .trailingUnderscore, .reservedWord,
  .sentinel]

/-- The word breaks this rule and none of those before it. -/
def FirstBroken (word : String) (fault : Fault) : Prop :=
  ∃ before after, rules = before ++ fault :: after ∧ Breaks word fault ∧
    ∀ earlier ∈ before, ¬Breaks word earlier

theorem hasConsecutiveUnderscores_iff :
    hasConsecutiveUnderscores cs = true ↔ ['_', '_'] <:+: cs := by
  fun_induction hasConsecutiveUnderscores cs with
  | case1 rest => simp [List.infix_cons_iff]
  | case2 c rest hne ih =>
    have hprefix : ¬['_', '_'] <+: c :: rest := by
      rintro ⟨after, heq⟩
      cases heq
      exact hne after rfl rfl
    rw [ih, List.infix_cons_iff, or_iff_right hprefix]
  | case3 => simp

theorem getLast?_eq_underscore_iff : cs.getLast? = some '_' ↔ ['_'] <:+ cs := by
  rw [List.getLast?_eq_some_iff]
  exact exists_congr fun _ => eq_comm

private theorem find?_cons_ite {α : Type} {p : α → Prop} [DecidablePred p] (a : α) (rest : List α) :
    (a :: rest).find? (p ·) = if p a then some a else rest.find? (p ·) := by
  rw [List.find?_cons]
  by_cases ha : p a <;> simp [ha]

theorem fault?_eq_some_iff : fault? word = some fault ↔ FirstBroken word fault := by
  classical
  have hempty : word.toList.isEmpty = true ↔ Breaks word .empty := by
    rw [List.isEmpty_iff, String.toList_eq_nil_iff]
    rfl
  have hfirst : (!word.toList.head?.all Char.isAlpha) = true ↔ Breaks word .firstCharacter := by
    unfold Breaks
    cases word.toList.head? <;> simp
  have halphabet : (!word.toList.all fun c => c.isAlphanum || c == '_') = true ↔
      Breaks word .alphabet := by
    simp [Breaks]
  have hconsecutive : hasConsecutiveUnderscores word.toList = true ↔
      Breaks word .consecutiveUnderscores := hasConsecutiveUnderscores_iff
  have htrailing : word.toList.getLast? = some '_' ↔ Breaks word .trailingUnderscore :=
    getLast?_eq_underscore_iff
  have hreserved : lowercase word ∈ reservedWords ↔ Breaks word .reservedWord := .rfl
  have hsentinel : word = noPeripheral ↔ Breaks word .sentinel := .rfl
  have hrules : fault? word = rules.find? (Breaks word ·) := by
    simp only [fault?, rules, find?_cons_ite, List.find?_nil, hempty, hfirst, halphabet,
      hconsecutive, htrailing, hreserved, hsentinel]
  rw [hrules, List.find?_eq_some_iff_append, FirstBroken]
  constructor
  · rintro ⟨hbreaks, before, after, hrules, hbefore⟩
    exact ⟨before, after, hrules, of_decide_eq_true hbreaks, by simpa using hbefore⟩
  · rintro ⟨before, after, hrules, hbreaks, hbefore⟩
    exact ⟨decide_eq_true hbreaks, before, after, hrules, by simpa using hbefore⟩

theorem ofName_eq_error_iff {invalid : Invalid} : ofName name = .error invalid ↔
    invalid.word = spelling name ∧ FirstBroken (spelling name) invalid.fault := by
  rw [← fault?_eq_some_iff, ofName]
  obtain ⟨word, fault⟩ := invalid
  cases fault? (spelling name) with
  | none => simp
  | some found => simp [eq_comm]

/-! ## Names in ASCII -/

/-- The same character up to letter case, hyphens and underscores being the same as well. -/
def Alike (c d : Char) : Prop :=
  c.toLower = d.toLower ∨ (c = '-' ∨ c = '_') ∧ (d = '-' ∨ d = '_')

/-- A character of a name in ASCII as its identifier has it. -/
def respelled (c : Char) : Char :=
  if c.toUpper = '-' then '_' else c.toUpper

theorem toList_spelling_of_ascii (h : ∀ c ∈ name.toList, c.toNat < 128) :
    (spelling name).toList = name.toList.map respelled := by
  rw [spelling, Text.uppercase, String.toList_ofList, String.toList_ofList,
    List.flatMap_congr fun c hc => Text.capitals_of_ascii (h c hc), ← List.map_eq_flatMap,
    List.map_map]
  rfl

theorem toUpper_eq_iff_of_not_isAlpha (hd : d.isAlpha = false) : c.toUpper = d ↔ c = d := by
  have hself : ∀ e : Char, e.isAlpha = false → e.toUpper = e := by
    intro e he
    apply Char.toUpper_eq_of_not_isLower
    intro hlower
    simp [Char.isAlpha, hlower] at he
  constructor
  · intro h
    have hc : c.isAlpha = false := by rw [← Char.isAlpha_toUpper_eq_isAlpha, h, hd]
    rw [← h, hself c hc]
  · rintro rfl
    exact hself c hd

theorem respelled_eq_underscore_iff : respelled c = '_' ↔ c = '-' ∨ c = '_' := by
  rw [respelled, ← toUpper_eq_iff_of_not_isAlpha (c := c) (d := '-') rfl,
    ← toUpper_eq_iff_of_not_isAlpha (c := c) (d := '_') rfl]
  split
  next hhyphen => exact iff_of_true rfl (.inl hhyphen)
  next hhyphen => exact (or_iff_right hhyphen).symm

theorem respelled_eq_iff : respelled c = respelled d ↔ Alike c d := by
  constructor
  · intro h
    by_cases hc : c = '-' ∨ c = '_'
    · have hd := respelled_eq_underscore_iff.mp (h ▸ respelled_eq_underscore_iff.mpr hc)
      exact .inr ⟨hc, hd⟩
    · have hupper : ∀ e, respelled e ≠ '_' → respelled e = e.toUpper := by
        intro e he
        rw [respelled, ite_eq_right_iff]
        intro hhyphen
        exact absurd (if_pos hhyphen) he
      have hne : respelled c ≠ '_' := mt respelled_eq_underscore_iff.mp hc
      have hsame : c.toUpper = d.toUpper := by rw [← hupper c hne, ← hupper d (h ▸ hne), h]
      left
      rw [← Char.toLower_toUpper_eq_toLower, hsame, Char.toLower_toUpper_eq_toLower]
  · rintro (hlower | ⟨hc, hd⟩)
    · have hsame : c.toUpper = d.toUpper := by
        rw [← Char.toUpper_toLower_eq_toUpper, hlower, Char.toUpper_toLower_eq_toUpper]
      rw [respelled, respelled, hsame]
    · rw [respelled_eq_underscore_iff.mpr hc, respelled_eq_underscore_iff.mpr hd]

/-- Names in ASCII have the same spelling if and only if they agree character by character. -/
theorem spelling_eq_iff {name' : String} (h : ∀ c ∈ name.toList, c.toNat < 128)
    (h' : ∀ c ∈ name'.toList, c.toNat < 128) :
    spelling name = spelling name' ↔ List.Forall₂ Alike name.toList name'.toList := by
  rw [← String.toList_inj, toList_spelling_of_ascii h, toList_spelling_of_ascii h',
    ← List.forall₂_eq_eq_eq, List.forall₂_map_left_iff, List.forall₂_map_right_iff]
  simp only [respelled_eq_iff]

/-! ## Names beyond ASCII -/

theorem mem_asciiCapitalized_of_ofName (h : ofName name = .ok word) (hc : c ∈ name.toList)
    (hbeyond : 128 ≤ c.toNat) : c.toNat ∈ Text.asciiCapitalized := by
  obtain ⟨rfl, hvalid⟩ := ofName_eq_ok_iff.mp h
  rw [← Text.capitals_ascii_iff hbeyond]
  intro d hd
  have hupper : d ∈ (Text.uppercase name).toList := by
    rw [Text.uppercase, String.toList_ofList]
    exact List.mem_flatMap.mpr ⟨c, hc, hd⟩
  have hspelled : (if d = '-' then '_' else d) ∈ (spelling name).toList := by
    rw [spelling, String.toList_ofList]
    exact List.mem_map.mpr ⟨d, hupper, rfl⟩
  have hbounds := hvalid.wellFormed.toNat_bounds _ hspelled
  split at hbounds
  next hhyphen => exact hhyphen ▸ by decide
  next => omega

/-- Which names have an identifier, which one it is, and why another name has none. Names in ASCII
share an identifier if they differ in letter case and in their hyphens and underscores at most.
Beyond ASCII, a name with an identifier can only have characters with capitals in ASCII. -/
theorem ofName_by_rules :
    (∀ name word, ofName name = .ok word ↔ word = spelling name ∧ Valid word) ∧
    (∀ name invalid, ofName name = .error invalid ↔
      invalid.word = spelling name ∧ FirstBroken (spelling name) invalid.fault) ∧
    (∀ name name' word word', (∀ c ∈ name.toList, c.toNat < 128) →
      (∀ c ∈ name'.toList, c.toNat < 128) → ofName name = .ok word → ofName name' = .ok word' →
      (word = word' ↔ List.Forall₂ Alike name.toList name'.toList)) ∧
    (∀ name word, ofName name = .ok word → ∀ c ∈ name.toList, 128 ≤ c.toNat →
      c.toNat ∈ Text.asciiCapitalized) ∧
    (∀ c : Char, 128 ≤ c.toNat →
      ((∀ d ∈ Text.capitals c, d.toNat < 128) ↔ c.toNat ∈ Text.asciiCapitalized)) := by
  refine ⟨fun name word => ?_, fun _ _ => ofName_eq_error_iff,
    fun name name' word word' hascii hascii' hname hname' => ?_,
    fun _ _ hname _ hc hbeyond => mem_asciiCapitalized_of_ofName hname hc hbeyond,
    fun _ => Text.capitals_ascii_iff⟩
  · rw [ofName_eq_ok_iff, eq_comm]
  · obtain ⟨rfl, -⟩ := ofName_eq_ok_iff.mp hname
    obtain ⟨rfl, -⟩ := ofName_eq_ok_iff.mp hname'
    exact spelling_eq_iff hascii hascii'

theorem ofName_by_rules_street :
    ofName "Straße-1" = .ok "STRASSE_1" ∧ 'ß'.toNat ∈ Text.asciiCapitalized ∧
    List.Forall₂ Alike "Strasse-1".toList "STRASSE_1".toList ∧
    FirstBroken "_1__" .firstCharacter := by
  obtain ⟨-, herror, hsame, hbeyond, -⟩ := ofName_by_rules
  have hstreet : ofName "Straße-1" = .ok "STRASSE_1" := by decide +kernel
  have hascii : ∀ name : String, name.toList.all (·.toNat < 128) →
      ∀ c ∈ name.toList, c.toNat < 128 := by
    intro name hname c hc
    exact of_decide_eq_true (List.all_eq_true.mp hname c hc)
  have hlower : ofName "Strasse-1" = .ok "STRASSE_1" := by decide +kernel
  have hupper : ofName "STRASSE_1" = .ok "STRASSE_1" := by decide +kernel
  have halike := (hsame _ _ _ _ (hascii _ rfl) (hascii _ rfl) hlower hupper).mp rfl
  have hrefused : ofName "-1_-" = .error ⟨"_1__", .firstCharacter⟩ := by decide +kernel
  exact ⟨hstreet, hbeyond _ _ hstreet 'ß' (by decide) (by decide), halike,
    ((herror _ _).mp hrefused).2⟩

end Identifier
end PeriphMap
