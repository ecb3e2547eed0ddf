import Mathlib.Data.List.Basic
import PeriphMap.Lookahead

/-! What is drawn with one item of lookahead. `toList` is the view of a state: a draw takes its head
off, whether or not that item was drawn ahead. -/

namespace PeriphMap

variable {α : Type}

namespace Supply

theorem dropWhile_eq_nil_or_cons (p : α → Bool) (l : List α) :
    (l.dropWhile (!p ·) = [] ∧ l.filter p = []) ∨
      ∃ a rest, l.dropWhile (!p ·) = a :: rest ∧ l.filter p = a :: rest.filter p := by
  induction l with
  | nil => exact .inl ⟨rfl, rfl⟩
  | cons b l ih =>
    cases hb : p b with
    | false => simpa [hb] using ih
    | true => exact .inr ⟨b, l, by simp [hb], by simp [hb]⟩

theorem draw_of_toList_eq_nil {supply : Supply α} (h : supply.toList = []) :
    supply.draw.1 = none ∧ supply.draw.2.toList = [] := by
  obtain ⟨hdrop, -⟩ | ⟨a, rest, -, hfilter⟩ :=
    dropWhile_eq_nil_or_cons supply.accepts supply.items
  · unfold draw
    rw [hdrop]
    exact ⟨rfl, rfl⟩
  · cases h.symm.trans hfilter

theorem draw_of_toList_eq_cons {supply : Supply α} {a : α} {as : List α}
    (h : supply.toList = a :: as) :
    supply.draw.1 = some a ∧ supply.draw.2.toList = as := by
  obtain ⟨-, hfilter⟩ | ⟨b, rest, hdrop, hfilter⟩ :=
    dropWhile_eq_nil_or_cons supply.accepts supply.items
  · cases h.symm.trans hfilter
  · cases h.symm.trans hfilter
    unfold draw
    rw [hdrop]
    exact ⟨rfl, rfl⟩

end Supply

namespace Lookahead

variable {l : Lookahead α} {a : α} {as : List α}

theorem take_of_toList_eq_nil (h : l.toList = []) : l.take.1 = none := by
  obtain ⟨supply, ahead⟩ := l
  match ahead, h with
  | none, h => exact (Supply.draw_of_toList_eq_nil h).1
  | some none, _ => rfl

theorem take_of_toList_eq_cons (h : l.toList = a :: as) :
    l.take.1 = some a ∧ l.take.2.toList = as := by
  obtain ⟨supply, ahead⟩ := l
  match ahead, h with
  | none, h => exact Supply.draw_of_toList_eq_cons h
  | some (some _), h =>
    cases h
    exact ⟨rfl, rfl⟩

theorem next_cases (l : Lookahead α) :
    (∃ supply, l.take = (none, supply) ∧ l.next = (none, ⟨supply, none⟩)) ∨
      ∃ a supply, l.take = (some a, supply) ∧
        l.next = (some (a, supply.draw.1.isSome), ⟨supply.draw.2, some supply.draw.1⟩) := by
  cases htake : l.take with
  | mk item supply =>
    cases item with
    | none => exact .inl ⟨supply, rfl, by rw [next, htake]⟩
    | some a => exact .inr ⟨a, supply, rfl, by rw [next, htake]⟩

theorem next_of_toList_eq_nil (h : l.toList = []) : l.next.1 = none := by
  have hitem := take_of_toList_eq_nil h
  obtain ⟨supply, -, hnext⟩ | ⟨b, supply, htake, -⟩ := l.next_cases
  · rw [hnext]
  · cases hitem.symm.trans (congrArg Prod.fst htake)

/-- The item whose turn it is comes with whether another one follows it. -/
theorem next_of_toList_eq_cons (h : l.toList = a :: as) :
    l.next.1 = some (a, !as.isEmpty) ∧ l.next.2.toList = as := by
  obtain ⟨hitem, hsupply⟩ := take_of_toList_eq_cons h
  obtain ⟨supply, htake, -⟩ | ⟨b, supply, htake, hnext⟩ := l.next_cases <;>
    rw [htake] at hitem hsupply <;> cases hitem
  rw [hnext]
  cases as with
  | nil =>
    obtain ⟨hnone, -⟩ := Supply.draw_of_toList_eq_nil hsupply
    rw [hnone]
    exact ⟨rfl, rfl⟩
  | cons b bs =>
    obtain ⟨hsome, hrest⟩ := Supply.draw_of_toList_eq_cons hsupply
    rw [hsome]
    exact ⟨rfl, congrArg (b :: ·) hrest⟩

theorem rest_of_toList_eq_nil (h : l.toList = []) : l.rest = ([], l.next.2) := by
  have hnone := next_of_toList_eq_nil h
  rw [rest]
  split
  next heq => rw [heq]
  next heq => simp [heq] at hnone

theorem rest_of_toList_eq_cons (h : l.toList = a :: as) :
    l.rest = ((a, !as.isEmpty) :: l.next.2.rest.1, l.next.2.rest.2) := by
  obtain ⟨hpair, -⟩ := next_of_toList_eq_cons h
  rw [rest]
  split
  next heq => simp [heq] at hpair
  next pair l' heq =>
    rw [heq] at hpair ⊢
    cases hpair
    rfl

/-! ## Marks -/

/-- Each item with whether another one follows it. -/
def marked : List α → List (α × Bool)
  | [] => []
  | a :: as => (a, !as.isEmpty) :: marked as

theorem map_fst_marked (items : List α) : (marked items).map Prod.fst = items := by
  induction items with
  | nil => rfl
  | cons a as ih => exact congrArg (a :: ·) ih

theorem length_marked (items : List α) : (marked items).length = items.length := by
  rw [← List.length_map Prod.fst, map_fst_marked]

theorem isEmpty_marked (items : List α) : (marked items).isEmpty = items.isEmpty := by
  cases items <;> rfl

theorem getElem?_marked (items : List α) (k : Nat) :
    (marked items)[k]? = items[k]?.map fun a => (a, decide (k + 1 < items.length)) := by
  induction items generalizing k with
  | nil => rfl
  | cons a as ih =>
    cases k with
    | zero => cases as <;> simp [marked]
    | succ k => simp [marked, ih]

theorem more_iff_of_getElem?_marked {items : List α} {k : Nat} {more : Bool}
    (h : (marked items)[k]? = some (a, more)) : more = true ↔ k + 1 < items.length := by
  rw [getElem?_marked, Option.map_eq_some_iff] at h
  obtain ⟨b, -, hpair⟩ := h
  cases hpair
  exact decide_eq_true_iff

theorem rest_fst (l : Lookahead α) : l.rest.1 = marked l.toList := by
  generalize h : l.toList = items
  induction items generalizing l with
  | nil => rw [rest_of_toList_eq_nil h, marked]
  | cons a as ih => rw [rest_of_toList_eq_cons h, ih _ (next_of_toList_eq_cons h).2, marked]

@[simp] theorem toList_ofList (items : List α) : (ofList items).toList = items :=
  List.filter_eq_self.mpr fun _ _ => rfl

end Lookahead
end PeriphMap
