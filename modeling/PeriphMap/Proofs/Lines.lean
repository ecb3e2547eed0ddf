import Mathlib
import PeriphMap.Proofs.Runs

/-! Texts put together from pieces, and taken apart again. The pieces come back as they went in as
long as none of them contains what stands between them. -/

namespace PeriphMap.Text

variable {c : Char} {s inner before after indent separator : String} {pieces lines : List String}

/-! ## Brackets -/

/-- What stands between `before` and `after`, when `s` begins and ends with them. -/
def between? (before after s : String) : Option String := do
  let rest ← s.toList.dropPrefix? before.toList
  let inner ← rest.dropSuffix? after.toList
  return String.ofList inner

theorem between?_eq_some_iff :
    between? before after s = some inner ↔ s = before ++ inner ++ after := by
  simp only [between?, Option.bind_eq_bind, Option.bind_eq_some_iff, Option.pure_def,
    Option.some.injEq, List.dropPrefix?_eq_some_iff, List.dropSuffix?_eq_some_iff, beq_iff_eq]
  rw [← String.toList_inj, String.toList_append, String.toList_append]
  constructor
  · intro h
    obtain ⟨_, ⟨_, hs, rfl⟩, _, ⟨_, rfl, rfl⟩, rfl⟩ := h
    rw [hs, String.toList_ofList, List.append_assoc]
  · intro hs
    exact ⟨_, ⟨_, by rw [hs, List.append_assoc], rfl⟩, _, ⟨_, rfl, rfl⟩, String.ofList_toList⟩

theorem between?_append (before inner after : String) :
    between? before after (before ++ inner ++ after) = some inner :=
  between?_eq_some_iff.mpr rfl

theorem between?_prefix (before inner : String) :
    between? before "" (before ++ inner) = some inner :=
  between?_eq_some_iff.mpr String.append_empty.symm

/-! ## Pieces -/

/-- The pieces of `s` that the occurrences of `c` leave. -/
def split (c : Char) (s : String) : List String :=
  (s.toList.splitOn c).map String.ofList

theorem split_intercalate (hc : separator.toList = [c]) (hne : pieces ≠ [])
    (h : ∀ piece ∈ pieces, c ∉ piece.toList) : split c (separator.intercalate pieces) = pieces := by
  rw [split, String.toList_intercalate, hc, List.splitOn_intercalate]
  · rw [List.map_map]
    exact (List.map_congr_left fun _ _ => String.ofList_toList).trans (List.map_id _)
  · intro cs hcs
    obtain ⟨piece, hpiece, rfl⟩ := List.mem_map.mp hcs
    exact h piece hpiece
  · exact fun hnil => hne (List.map_eq_nil_iff.mp hnil)

theorem count_intercalate (hc : c ∉ separator.toList) (pieces : List String) :
    (separator.intercalate pieces).toList.count c = (pieces.map (·.toList.count c)).sum := by
  rw [String.toList_intercalate]
  induction pieces with
  | nil => rfl
  | cons piece pieces ih =>
    cases pieces with
    | nil => simp
    | cons next pieces =>
      rw [List.map_cons, List.map_cons, List.intercalate_cons_cons, ← List.map_cons,
        List.count_append, List.count_append, ih, List.count_eq_zero_of_not_mem hc, Nat.add_zero]
      simp only [List.map_cons, List.sum_cons]

theorem sum_count_eq_zero (h : ∀ piece ∈ pieces, c ∉ piece.toList) :
    (pieces.map (·.toList.count c)).sum = 0 := by
  apply List.sum_eq_zero
  intro n hn
  obtain ⟨piece, hpiece, rfl⟩ := List.mem_map.mp hn
  exact List.count_eq_zero_of_not_mem (h piece hpiece)

theorem not_mem_intercalate (hc : c ∉ separator.toList)
    (h : ∀ piece ∈ pieces, c ∉ piece.toList) : c ∉ (separator.intercalate pieces).toList := by
  rw [← List.count_eq_zero, count_intercalate hc, sum_count_eq_zero h]

/-! ## Lines -/

/-- Ends each line, the last one as well. -/
def unlines (lines : List String) : String :=
  String.join (lines.map (· ++ "\n"))

/-- The lines of a text, without what follows the last line end. -/
def toLines (s : String) : List String :=
  (split '\n' s).dropLast

theorem toList_unlines (lines : List String) :
    (unlines lines).toList = lines.flatMap fun line => line.toList ++ ['\n'] := by
  rw [unlines, String.toList_join, List.flatMap_map]
  exact congrArg (List.flatMap · lines) (funext fun _ => String.toList_append)

theorem unlines_append (xs ys : List String) : unlines (xs ++ ys) = unlines xs ++ unlines ys := by
  rw [← String.toList_inj, String.toList_append]
  simp only [toList_unlines, List.flatMap_append]

theorem unlines_cons (line : String) (lines : List String) :
    unlines (line :: lines) = line ++ "\n" ++ unlines lines := by
  rw [← String.toList_inj]
  simp only [toList_unlines, List.flatMap_cons, String.toList_append]
  rfl

theorem splitOn_unlines_append (h : ∀ line ∈ lines, '\n' ∉ line.toList) (cs : List Char) :
    ((unlines lines).toList ++ cs).splitOn '\n' = lines.map String.toList ++ cs.splitOn '\n' := by
  rw [toList_unlines]
  induction lines with
  | nil => rfl
  | cons line lines ih =>
    rw [List.flatMap_cons, List.append_assoc, List.append_assoc, List.singleton_append,
      List.splitOn_append_cons_self_of_not_mem (h line List.mem_cons_self),
      ih fun line' hline' => h line' (List.mem_cons_of_mem _ hline'), List.map_cons,
      List.cons_append]

/-- The text behind the last line end counts as a piece, although it is empty. -/
theorem splitOn_unlines (h : ∀ line ∈ lines, '\n' ∉ line.toList) :
    (unlines lines).toList.splitOn '\n' = lines.map String.toList ++ [[]] := by
  rw [← List.append_nil (unlines lines).toList, splitOn_unlines_append h, List.splitOn_nil]

theorem toLines_unlines (h : ∀ line ∈ lines, '\n' ∉ line.toList) :
    toLines (unlines lines) = lines := by
  rw [toLines, split, splitOn_unlines h, List.map_append, List.map_singleton,
    List.dropLast_concat, List.map_map]
  exact (List.map_congr_left fun _ _ => String.ofList_toList).trans (List.map_id _)

theorem count_unlines (c : Char) (lines : List String) :
    (unlines lines).toList.count c =
      (lines.map (·.toList.count c)).sum + if c = '\n' then lines.length else 0 := by
  rw [toList_unlines]
  induction lines with
  | nil => simp
  | cons line lines ih =>
    rw [List.flatMap_cons, List.count_append, ih, List.count_append, List.map_cons, List.sum_cons,
      List.length_cons]
    by_cases hc : c = '\n'
    · subst hc
      simp only [List.count_singleton_self, if_true]
      omega
    · rw [List.count_eq_zero_of_not_mem (hc ∘ List.mem_singleton.mp), if_neg hc, if_neg hc]
      omega

/-! ## Lists with leading separators -/

/-- A line for each item. The first is indented, the others have a separator in that place. -/
def itemize (indent separator : String) : List String → List String
  | [] => []
  | item :: items => (indent ++ item) :: items.map (separator ++ ·)

def items? (indent separator : String) : List String → Option (List String)
  | [] => some []
  | line :: lines => do
    let item ← between? indent "" line
    let items ← lines.mapM (between? separator "")
    return item :: items

theorem items?_itemize (indent separator : String) (items : List String) :
    items? indent separator (itemize indent separator items) = some items := by
  cases items with
  | nil => rfl
  | cons item items =>
    have hitems : (items.map (separator ++ ·)).mapM (between? separator "") = some items :=
      mapM_map_eq_some fun item _ => between?_prefix separator item
    rw [itemize, items?, between?_prefix, hitems]
    rfl

theorem itemize_self (separator : String) (items : List String) :
    itemize separator separator items = items.map (separator ++ ·) := by
  cases items <;> rfl

@[simp] theorem length_itemize (indent separator : String) (items : List String) :
    (itemize indent separator items).length = items.length := by
  cases items with
  | nil => rfl
  | cons item items => rw [itemize, List.length_cons, List.length_map, List.length_cons]

theorem getElem?_itemize (indent separator : String) (items : List String) (k : Nat) :
    (itemize indent separator items)[k]? =
      items[k]?.map ((if k = 0 then indent else separator) ++ ·) := by
  cases items with
  | nil => rfl
  | cons item items =>
    cases k with
    | zero => rfl
    | succ k => rw [itemize, List.getElem?_cons_succ, List.getElem?_map]; rfl

/-- As one text, the items have separators between them. -/
theorem unlines_itemize (indent separator : String) (items : List String) :
    unlines (itemize indent separator items) =
      (if items.isEmpty then "" else indent) ++ separator.intercalate (items.map (· ++ "\n")) := by
  induction items generalizing indent with
  | nil => rfl
  | cons item items ih =>
    have hitems := ih separator
    rw [itemize_self] at hitems
    rw [itemize, unlines_cons, hitems]
    cases items with
    | nil => simp [String.append_assoc]
    | cons next items => simp [String.append_assoc]

theorem mem_itemize {line : String} (h : line ∈ itemize indent separator pieces) :
    ∃ item ∈ pieces, line = indent ++ item ∨ line = separator ++ item := by
  cases pieces with
  | nil => contradiction
  | cons item items =>
    rcases List.mem_cons.mp h with rfl | h
    · exact ⟨item, List.mem_cons_self, .inl rfl⟩
    · obtain ⟨item', hitem', rfl⟩ := List.mem_map.mp h
      exact ⟨item', List.mem_cons_of_mem _ hitem', .inr rfl⟩

end PeriphMap.Text
