/-! Drawing the items of a sequence one by one, each together with whether another one follows. To
know this, the following item is drawn ahead of its turn. -/

namespace PeriphMap

/-- Items yet to be drawn. A filter passes over some of them, and which ones shows only when their
turn comes. -/
structure Supply (α : Type) where
  items : List α
  keep : Option (α → Bool)

namespace Supply

variable {α : Type}

def accepts (supply : Supply α) (a : α) : Bool :=
  supply.keep.all (· a)

/-- The items that will be drawn. -/
def toList (supply : Supply α) : List α :=
  supply.items.filter supply.accepts

def draw (supply : Supply α) : Option α × Supply α :=
  match supply.items.dropWhile (!supply.accepts ·) with
  | [] => (none, { supply with items := [] })
  | a :: rest => (some a, { supply with items := rest })

/-- The least and the largest number of items that may still be drawn, as far as can be told
without looking at them. -/
def sizeHint (supply : Supply α) : Nat × Nat :=
  (if supply.keep.isSome then 0 else supply.items.length, supply.items.length)

theorem draw_length_le (supply : Supply α) :
    supply.draw.2.items.length + supply.draw.1.toList.length ≤ supply.items.length := by
  have h := (List.dropWhile_sublist (p := (!supply.accepts ·)) (l := supply.items)).length_le
  unfold draw
  split <;> simp_all

end Supply

/-- A supply and the item drawn ahead from it, if one was asked for. The latter is `none` once the
supply has turned out to be used up. -/
structure Lookahead (α : Type) where
  supply : Supply α
  ahead : Option (Option α)

namespace Lookahead

variable {α : Type}

def ofSupply (supply : Supply α) : Lookahead α where
  supply := supply
  ahead := none

def ofList (items : List α) : Lookahead α :=
  ofSupply ⟨items, none⟩

/-- The items that will be drawn. -/
def toList (l : Lookahead α) : List α :=
  match l.ahead with
  | none => l.supply.toList
  | some none => []
  | some (some a) => a :: l.supply.toList

/-- Takes the item whose turn it is, from the supply only if it was not drawn ahead. -/
def take (l : Lookahead α) : Option α × Supply α :=
  match l.ahead with
  | some item => (item, l.supply)
  | none => l.supply.draw

def next (l : Lookahead α) : Option (α × Bool) × Lookahead α :=
  match l.take with
  | (none, supply) => (none, ⟨supply, none⟩)
  | (some a, supply) => (some (a, supply.draw.1.isSome), ⟨supply.draw.2, some supply.draw.1⟩)

def sizeHint (l : Lookahead α) : Nat × Nat :=
  match l.ahead with
  | none => l.supply.sizeHint
  | some none => (0, 0)
  | some (some _) => (l.supply.sizeHint.1 + 1, l.supply.sizeHint.2 + 1)

/-- How many items there are at most, the one drawn ahead included. -/
def held (l : Lookahead α) : Nat :=
  l.supply.items.length + (l.ahead.bind id).toList.length

theorem take_length_le (l : Lookahead α) :
    l.take.2.items.length + l.take.1.toList.length ≤ l.held := by
  unfold take held
  split <;> rename_i h
  · simp [h]
  · have := l.supply.draw_length_le
    omega

theorem held_lt_of_next {l l' : Lookahead α} {pair : α × Bool} (h : l.next = (some pair, l')) :
    l'.held < l.held := by
  have hl := l.take_length_le
  unfold next at h
  split at h
  · simp at h
  · rename_i a supply ht
    obtain ⟨-, rfl⟩ := Prod.mk.inj h
    have hd := supply.draw_length_le
    rw [ht] at hl
    simp only [Option.toList_some, List.length_singleton] at hl
    show supply.draw.2.items.length + supply.draw.1.toList.length < l.held
    omega

/-- All items still to come. -/
def rest (l : Lookahead α) : List (α × Bool) × Lookahead α :=
  match _h : l.next with
  | (none, l') => ([], l')
  | (some pair, l') =>
    let tail := l'.rest
    (pair :: tail.1, tail.2)
termination_by l.held
decreasing_by exact held_lt_of_next _h

end Lookahead
end PeriphMap
