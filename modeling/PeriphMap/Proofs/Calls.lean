import PeriphMap.Proofs.Lookaheads

/-! Lookaheads under any sequence of calls. What each call answers is taken off the pairs that are
still to come, the bounds enclose their number, and an end that was seen stays the end. -/

namespace PeriphMap

variable {α : Type}

namespace Supply

variable {supply : Supply α}

theorem toList_of_keep_eq_none (h : supply.keep = none) : supply.toList = supply.items := by
  refine List.filter_eq_self.mpr fun a _ => ?_
  rw [accepts, h]
  rfl

theorem keep_draw (supply : Supply α) : supply.draw.2.keep = supply.keep := by
  unfold draw
  split <;> rfl

theorem items_draw_of_eq_none (h : supply.draw.1 = none) : supply.draw.2.items = [] := by
  unfold draw at h ⊢
  split at h
  next => rfl
  next => cases h

theorem sizeHint_bounds (supply : Supply α) :
    supply.sizeHint.1 ≤ supply.toList.length ∧ supply.toList.length ≤ supply.sizeHint.2 := by
  refine ⟨?_, List.length_filter_le ..⟩
  unfold sizeHint
  cases hkeep : supply.keep with
  | none => exact Nat.le_of_eq (congrArg List.length (toList_of_keep_eq_none hkeep).symm)
  | some keep => exact Nat.zero_le _

theorem sizeHint_of_keep_eq_none (h : supply.keep = none) :
    supply.sizeHint = (supply.toList.length, supply.toList.length) := by
  rw [toList_of_keep_eq_none h, sizeHint, h]
  rfl

end Supply

namespace Lookahead

variable {l : Lookahead α}

/-! ## Drawing ahead -/

/-- Where no item was found ahead, the supply is used up. This carries the end over to later calls:
`next` forgets that nothing was found ahead, and the supply is asked once more. -/
def Settled (l : Lookahead α) : Prop :=
  l.ahead = some none → l.supply.items = []

theorem settled_ofSupply (supply : Supply α) : (ofSupply supply).Settled := nofun

theorem keep_take (l : Lookahead α) : l.take.2.keep = l.supply.keep := by
  unfold take
  split
  · rfl
  · exact l.supply.keep_draw

theorem items_take_of_eq_none (hsettled : l.Settled) (h : l.take.1 = none) :
    l.take.2.items = [] := by
  unfold take at h ⊢
  split at h
  next item hahead => exact hsettled (hahead.trans (congrArg some h))
  next => exact Supply.items_draw_of_eq_none h

theorem keep_next (l : Lookahead α) : l.next.2.supply.keep = l.supply.keep := by
  have hkeep := l.keep_take
  obtain ⟨supply, htake, hnext⟩ | ⟨a, supply, htake, hnext⟩ := l.next_cases <;>
    rw [htake] at hkeep <;> rw [hnext]
  · exact hkeep
  · exact supply.keep_draw.trans hkeep

theorem settled_next (l : Lookahead α) : l.next.2.Settled := by
  obtain ⟨supply, -, hnext⟩ | ⟨a, supply, -, hnext⟩ := l.next_cases <;> rw [hnext]
  · nofun
  · exact fun hahead => Supply.items_draw_of_eq_none (Option.some.inj hahead)

theorem held_next_le (l : Lookahead α) : l.next.2.held ≤ l.held := by
  have hle := l.take_length_le
  obtain ⟨supply, htake, hnext⟩ | ⟨a, supply, -, hnext⟩ := l.next_cases
  · rw [htake] at hle
    rw [hnext]
    exact hle
  · have hlt := held_lt_of_next hnext
    rw [hnext]
    exact Nat.le_of_lt hlt

theorem toList_of_take_eq_some {a : α} {supply : Supply α} (h : l.take = (some a, supply)) :
    l.toList = a :: supply.toList := by
  cases hlist : l.toList with
  | nil => cases (congrArg Prod.fst h).symm.trans (take_of_toList_eq_nil hlist)
  | cons b bs =>
    obtain ⟨hitem, hsupply⟩ := take_of_toList_eq_cons hlist
    rw [h] at hitem hsupply
    cases hitem
    exact congrArg (a :: ·) hsupply.symm

theorem length_toList_le (l : Lookahead α) : l.toList.length ≤ l.held := by
  obtain ⟨supply, ahead⟩ := l
  have hsupply : supply.toList.length ≤ supply.items.length := List.length_filter_le ..
  match ahead with
  | none => exact hsupply
  | some none => exact Nat.zero_le _
  | some (some a) => exact Nat.succ_le_succ hsupply

theorem toList_of_held_eq_zero (h : l.held = 0) : l.toList = [] :=
  List.eq_nil_of_length_eq_zero (Nat.le_zero.mp (h ▸ l.length_toList_le))

/-- Nothing is held any more once the last item was drawn. -/
theorem held_next_of_tail_eq_nil (hsettled : l.Settled) (h : l.toList.tail = []) :
    l.next.2.held = 0 := by
  obtain ⟨supply, htake, hnext⟩ | ⟨a, supply, htake, hnext⟩ := l.next_cases <;> rw [hnext]
  · have hitems := items_take_of_eq_none hsettled (congrArg Prod.fst htake)
    rw [htake] at hitems
    exact congrArg List.length hitems
  · rw [toList_of_take_eq_some htake] at h
    obtain ⟨hnone, -⟩ := Supply.draw_of_toList_eq_nil h
    simp [held, hnone, Supply.items_draw_of_eq_none hnone]

theorem next_fst (l : Lookahead α) : l.next.1 = (marked l.toList).head? := by
  cases h : l.toList with
  | nil => exact next_of_toList_eq_nil h
  | cons a as => exact (next_of_toList_eq_cons h).1

theorem toList_next (hsettled : l.Settled) : l.next.2.toList = l.toList.tail := by
  cases h : l.toList with
  | nil => exact toList_of_held_eq_zero (held_next_of_tail_eq_nil hsettled (by rw [h]; rfl))
  | cons a as => exact (next_of_toList_eq_cons h).2

theorem length_rest (l : Lookahead α) : l.rest.1.length = l.toList.length := by
  rw [rest_fst, length_marked]

theorem held_rest (hsettled : l.Settled) : l.rest.2.held = 0 := by
  generalize hitems : l.toList = items
  induction items generalizing l with
  | nil =>
    rw [rest_of_toList_eq_nil hitems]
    exact held_next_of_tail_eq_nil hsettled (congrArg List.tail hitems)
  | cons a as ih =>
    rw [rest_of_toList_eq_cons hitems]
    exact ih l.settled_next (next_of_toList_eq_cons hitems).2

/-! ## Bounds -/

theorem sizeHint_bounds (l : Lookahead α) :
    l.sizeHint.1 ≤ l.toList.length ∧ l.toList.length ≤ l.sizeHint.2 := by
  obtain ⟨supply, ahead⟩ := l
  obtain ⟨hleast, hgreatest⟩ := supply.sizeHint_bounds
  match ahead with
  | none => exact ⟨hleast, hgreatest⟩
  | some none => exact ⟨Nat.le_refl 0, Nat.le_refl 0⟩
  | some (some a) => exact ⟨Nat.succ_le_succ hleast, Nat.succ_le_succ hgreatest⟩

theorem sizeHint_of_keep_eq_none (h : l.supply.keep = none) :
    l.sizeHint = (l.toList.length, l.toList.length) := by
  obtain ⟨supply, ahead⟩ := l
  have hsupply := Supply.sizeHint_of_keep_eq_none h
  match ahead with
  | none => exact hsupply
  | some none => rfl
  | some (some a) => simp only [sizeHint, toList, hsupply, List.length_cons]

theorem sizeHint_le_held (l : Lookahead α) : l.sizeHint.2 ≤ l.held := by
  obtain ⟨supply, ahead⟩ := l
  match ahead with
  | none => exact Nat.le_refl _
  | some none => exact Nat.zero_le _
  | some (some a) => exact Nat.le_refl _

theorem sizeHint_of_held_eq_zero (h : l.held = 0) : l.sizeHint = (0, 0) := by
  have hgreatest : l.sizeHint.2 ≤ 0 := h ▸ l.sizeHint_le_held
  have hleast : l.sizeHint.1 ≤ l.sizeHint.2 := Nat.le_trans l.sizeHint_bounds.1 l.sizeHint_bounds.2
  exact Prod.ext (Nat.le_zero.mp (Nat.le_trans hleast hgreatest)) (Nat.le_zero.mp hgreatest)

/-! ## Calls -/

/-- What may be asked of a lookahead. -/
inductive Call
  | next
  | sizeHint
  | rest
  deriving DecidableEq

inductive Answer (α : Type)
  | next (pair : Option (α × Bool))
  | sizeHint (bounds : Nat × Nat)
  | rest (pairs : List (α × Bool))

namespace Answer

def pairs : Answer α → List (α × Bool)
  | next pair => pair.toList
  | sizeHint _ => []
  | rest pairs => pairs

/-- Whether it is known from an answer that nothing follows. -/
def tellsEnd : Answer α → Bool
  | next none => true
  | next (some (_, more)) => !more
  | sizeHint _ => false
  | rest _ => true

def isSizeHint : Answer α → Bool
  | sizeHint _ => true
  | _ => false

end Answer

def call (l : Lookahead α) : Call → Answer α × Lookahead α
  | .next => (.next l.next.1, l.next.2)
  | .sizeHint => (.sizeHint l.sizeHint, l)
  | .rest => (.rest l.rest.1, l.rest.2)

/-- Calls made one after the other. -/
def callAll (l : Lookahead α) : List Call → List (Answer α) × Lookahead α
  | [] => ([], l)
  | call :: calls =>
    let first := l.call call
    let later := first.2.callAll calls
    (first.1 :: later.1, later.2)

/-! ## Runs -/

section Runs

variable {supply : Supply α} {given : List (α × Bool)} {c : Call} {calls : List Call}

/-- Some pairs were given out, and the others are still to come. -/
structure Serves (supply : Supply α) (given : List (α × Bool)) (l : Lookahead α) : Prop where
  settled : l.Settled
  keep : l.supply.keep = supply.keep
  held_le : l.held ≤ supply.items.length
  pairs : given ++ marked l.toList = marked supply.toList

theorem serves_ofSupply (supply : Supply α) : Serves supply [] (ofSupply supply) where
  settled := settled_ofSupply supply
  keep := rfl
  held_le := Nat.le_refl _
  pairs := rfl

namespace Serves

theorem next (h : Serves supply given l) :
    Serves supply (given ++ l.next.1.toList) l.next.2 where
  settled := l.settled_next
  keep := l.keep_next.trans h.keep
  held_le := Nat.le_trans l.held_next_le h.held_le
  pairs := by
    rw [← h.pairs, List.append_assoc, next_fst, toList_next h.settled]
    cases l.toList <;> rfl

theorem rest (h : Serves supply given l) : Serves supply (given ++ l.rest.1) l.rest.2 := by
  generalize hitems : l.toList = items
  induction items generalizing l given with
  | nil =>
    have hnext := h.next
    rw [next_of_toList_eq_nil hitems] at hnext
    rwa [rest_of_toList_eq_nil hitems]
  | cons a as ih =>
    obtain ⟨hpair, hrest⟩ := next_of_toList_eq_cons hitems
    have hnext := h.next
    rw [hpair] at hnext
    rw [rest_of_toList_eq_cons hitems]
    simpa using ih hnext hrest

theorem call (h : Serves supply given l) (c : Call) :
    Serves supply (given ++ (l.call c).1.pairs) (l.call c).2 := by
  cases c with
  | next => exact h.next
  | sizeHint => rwa [Lookahead.call, Answer.pairs, List.append_nil]
  | rest => exact h.rest

theorem callAll (h : Serves supply given l) (calls : List Call) :
    Serves supply (given ++ (l.callAll calls).1.flatMap Answer.pairs) (l.callAll calls).2 := by
  induction calls generalizing l given with
  | nil => rwa [Lookahead.callAll, List.flatMap_nil, List.append_nil]
  | cons c calls ih =>
    rw [Lookahead.callAll, List.flatMap_cons, ← List.append_assoc]
    exact ih (h.call c)

theorem append_rest (h : Serves supply given l) : given ++ l.rest.1 = marked supply.toList := by
  rw [rest_fst, h.pairs]

/-- When all pairs were given out, no later answer has one. -/
theorem pairs_eq_nil (h : Serves supply given l) (hall : given.length = supply.toList.length)
    {answer : Answer α} (hanswer : answer ∈ (l.callAll calls).1) : answer.pairs = [] := by
  have hlength := congrArg List.length (h.callAll calls).pairs
  rw [List.length_append, List.length_append, length_marked, length_marked, hall] at hlength
  have hnil : (l.callAll calls).1.flatMap Answer.pairs = [] :=
    List.eq_nil_of_length_eq_zero (by omega)
  exact List.flatMap_eq_nil_iff.mp hnil answer hanswer

theorem held_call_of_tellsEnd (h : Serves supply given l) (hend : (l.call c).1.tellsEnd) :
    (l.call c).2.held = 0 := by
  cases c with
  | next =>
    refine held_next_of_tail_eq_nil h.settled ?_
    cases hitems : l.toList with
    | nil => rfl
    | cons a as =>
      rw [Lookahead.call, (next_of_toList_eq_cons hitems).1] at hend
      simpa [Answer.tellsEnd] using hend
  | sizeHint => cases hend
  | rest => exact held_rest h.settled

theorem held_call_of_held_eq_zero (h : Serves supply given l) (hheld : l.held = 0) :
    (l.call c).2.held = 0 := by
  cases c with
  | next => exact Nat.le_zero.mp (hheld ▸ l.held_next_le)
  | sizeHint => exact hheld
  | rest => exact held_rest h.settled

theorem held_callAll_of_held_eq_zero (h : Serves supply given l) (hheld : l.held = 0) :
    (l.callAll calls).2.held = 0 := by
  induction calls generalizing l given with
  | nil => exact hheld
  | cons c calls ih => exact ih (h.call c) (h.held_call_of_held_eq_zero hheld)

theorem held_callAll_of_tellsEnd (h : Serves supply given l)
    (hend : (l.callAll calls).1.any Answer.tellsEnd) : (l.callAll calls).2.held = 0 := by
  induction calls generalizing l given with
  | nil => cases hend
  | cons c calls ih =>
    rw [Lookahead.callAll, List.any_cons, Bool.or_eq_true] at hend
    rcases hend with hend | hend
    · exact (h.call c).held_callAll_of_held_eq_zero (h.held_call_of_tellsEnd hend)
    · exact ih (h.call c) hend

end Serves

/-- Leaving out the questions for bounds leaves out their answers, and changes nothing else. -/
theorem callAll_filter_ne_sizeHint (l : Lookahead α) (calls : List Call) :
    l.callAll (calls.filter (· ≠ .sizeHint)) =
      ((l.callAll calls).1.filter (!·.isSizeHint), (l.callAll calls).2) := by
  induction calls generalizing l with
  | nil => rfl
  | cons c calls ih =>
    cases c with
    | next =>
      rw [List.filter_cons_of_pos (by decide), callAll, ih]
      rfl
    | sizeHint =>
      rw [List.filter_cons_of_neg (by decide), ih]
      rfl
    | rest =>
      rw [List.filter_cons_of_pos (by decide), callAll, ih]
      rfl

end Runs

/-- Whatever was asked before: the items in their order, each with whether another one follows, the
end once and for all, and bounds that enclose what is still to come. No bound is greater than the
number of items, so bounds fit wherever this number does. -/
theorem answers_of_callAll (items : List α) (keep : Option (α → Bool)) (calls : List Call) :
    let kept := items.filter fun a => keep.all (· a)
    let answers := ((ofSupply ⟨items, keep⟩).callAll calls).1
    let l := ((ofSupply ⟨items, keep⟩).callAll calls).2
    let given := answers.flatMap Answer.pairs
    ((given ++ l.rest.1).map Prod.fst = kept ∧
      ∀ k a more, (given ++ l.rest.1)[k]? = some (a, more) → (more = true ↔ k + 1 < kept.length)) ∧
    (l.next.1 = l.rest.1.head? ∧ (given.length = kept.length →
      ∀ later pair, .next pair ∈ (l.callAll later).1 → pair = none)) ∧
    (l.sizeHint.1 ≤ l.rest.1.length ∧ l.rest.1.length ≤ l.sizeHint.2 ∧
      l.sizeHint.2 ≤ items.length) ∧
    (keep = none → l.sizeHint = (l.rest.1.length, l.rest.1.length)) ∧
    (answers.any Answer.tellsEnd → l.sizeHint = (0, 0)) ∧
    (ofSupply ⟨items, keep⟩).callAll (calls.filter (· ≠ .sizeHint)) =
      (answers.filter (!·.isSizeHint), l) := by
  intro kept answers l given
  have hstart : Serves ⟨items, keep⟩ [] (ofSupply ⟨items, keep⟩) := serves_ofSupply ⟨items, keep⟩
  have hserves : Serves ⟨items, keep⟩ given l := hstart.callAll calls
  have hpairs : given ++ l.rest.1 = marked kept := hserves.append_rest
  rw [l.length_rest]
  refine ⟨⟨?_, fun k a more hat => ?_⟩, ⟨?_, fun hall later pair hmem => ?_⟩, ?_, fun hkeep => ?_,
    fun hend => ?_, callAll_filter_ne_sizeHint _ calls⟩
  · rw [hpairs, map_fst_marked]
  · rw [hpairs] at hat
    exact more_iff_of_getElem?_marked hat
  · rw [next_fst, rest_fst]
  · exact Option.toList_eq_nil_iff.mp (hserves.pairs_eq_nil hall hmem)
  · obtain ⟨hleast, hgreatest⟩ := l.sizeHint_bounds
    exact ⟨hleast, hgreatest, Nat.le_trans l.sizeHint_le_held hserves.held_le⟩
  · exact sizeHint_of_keep_eq_none (hserves.keep.trans hkeep)
  · exact sizeHint_of_held_eq_zero (hstart.held_callAll_of_tellsEnd hend)

/-- The last item is passed over, which shows when the one before it is drawn. -/
theorem answers_of_callAll_passing :
    let l := ((ofSupply ⟨['a', 'x', 'c', 'x'], some (· ≠ 'x')⟩).callAll
      [.next, .sizeHint, .next]).2
    ((ofSupply ⟨['a', 'x', 'c', 'x'], some (· ≠ 'x')⟩).callAll [.next, .sizeHint, .next]).1 =
      [.next (some ('a', true)), .sizeHint (1, 2), .next (some ('c', false))] ∧
    l.rest.1 = [] ∧ l.sizeHint = (0, 0) ∧
    ∀ later pair, .next pair ∈ (l.callAll later).1 → pair = none := by
  intro l
  obtain ⟨⟨hitems, -⟩, ⟨-, hend⟩, -, -, hbounds, -⟩ :=
    answers_of_callAll ['a', 'x', 'c', 'x'] (some (· ≠ 'x')) [.next, .sizeHint, .next]
  have hrest : 'a' :: 'c' :: l.rest.1.map Prod.fst = ['a', 'c'] := hitems
  refine ⟨rfl, ?_, hbounds rfl, hend rfl⟩
  simpa using hrest

end Lookahead
end PeriphMap
