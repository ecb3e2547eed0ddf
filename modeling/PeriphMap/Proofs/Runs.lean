import Mathlib.Data.List.Forall2
import Mathlib.Data.Nat.Find
import PeriphMap.Run

/-! Results of runs, and lists that are related element by element. A run has a result if and only
if each of its steps has one, and it has the error of its first step without one. What comes after
that step leaves no trace. -/

namespace PeriphMap

section Lists

variable {α β γ : Type} {R : α → β → Prop} {S : β → γ → Prop} {T : α → γ → Prop} {xs : List α}
  {ys : List β} {x : α} {y : β}

theorem exists_of_mem_left (h : List.Forall₂ R xs ys) (hx : x ∈ xs) : ∃ y ∈ ys, R x y := by
  induction h with
  | nil => cases hx
  | cons hxy _ ih =>
    rcases List.mem_cons.mp hx with rfl | hx
    · exact ⟨_, List.mem_cons_self, hxy⟩
    · obtain ⟨y, hy, hR⟩ := ih hx
      exact ⟨y, List.mem_cons_of_mem _ hy, hR⟩

theorem exists_of_mem_right (h : List.Forall₂ R xs ys) (hy : y ∈ ys) : ∃ x ∈ xs, R x y :=
  exists_of_mem_left h.flip hy

theorem forall₂_concat_iff :
    List.Forall₂ R (xs ++ [x]) ys ↔ ∃ ys' y, List.Forall₂ R xs ys' ∧ R x y ∧ ys = ys' ++ [y] := by
  constructor
  · intro h
    have hreverse := List.forall₂_reverse_iff.mpr h
    rw [List.reverse_append, List.reverse_singleton, List.singleton_append,
      List.forall₂_cons_left_iff] at hreverse
    obtain ⟨y, rest, hxy, hrest, hys⟩ := hreverse
    refine ⟨rest.reverse, y, ?_, hxy, ?_⟩
    · rwa [← List.forall₂_reverse_iff, List.reverse_reverse]
    · rw [← List.reverse_cons, ← hys, List.reverse_reverse]
  · intro h
    obtain ⟨ys', y, hys', hxy, rfl⟩ := h
    exact List.rel_append hys' (.cons hxy .nil)

theorem exists_forall₂ (h : List.Forall₂ R xs ys)
    (hstep : ∀ x y, R x y → ∃ z, S y z ∧ T x z) :
    ∃ zs, List.Forall₂ S ys zs ∧ List.Forall₂ T xs zs := by
  induction h with
  | nil => exact ⟨[], .nil, .nil⟩
  | cons hxy _ ih =>
    obtain ⟨z, hS, hT⟩ := hstep _ _ hxy
    obtain ⟨zs, hSs, hTs⟩ := ih
    exact ⟨z :: zs, .cons hS hSs, .cons hT hTs⟩

theorem mapM_eq_some_iff {f : α → Option β} :
    xs.mapM f = some ys ↔ List.Forall₂ (fun x y => f x = some y) xs ys := by
  induction xs generalizing ys with
  | nil => simp [eq_comm]
  | cons x xs ih =>
    simp only [List.mapM_cons, Option.bind_eq_bind, Option.bind_eq_some_iff, Option.pure_def,
      Option.some.injEq, ih, List.forall₂_cons_left_iff]
    constructor
    · intro h
      obtain ⟨y, hy, ys, hys, rfl⟩ := h
      exact ⟨y, ys, hy, hys, rfl⟩
    · intro h
      obtain ⟨y, ys, hy, hys, rfl⟩ := h
      exact ⟨y, hy, ys, hys, rfl⟩

/-- If something holds at a position, there is a first one where it does. -/
theorem exists_first {P : Nat → α → Prop} {p : Nat} (h : P p x) :
    ∃ q y, P q y ∧ ∀ r < q, ∀ z, ¬P r z := by
  classical
  have hex : ∃ q y, P q y := ⟨p, x, h⟩
  obtain ⟨y, hy⟩ := Nat.find_spec hex
  exact ⟨Nat.find hex, y, hy, fun r hr z hz => Nat.find_min hex hr ⟨z, hz⟩⟩

/-- Where a list is cut at an element behind others that are in order, that element is its head, or
the head is in order and the rest is cut there. -/
theorem exists_split_cons_iff {P Q : α → Prop} :
    (∃ before y after, x :: xs = before ++ y :: after ∧ (∀ z ∈ before, Q z) ∧ P y) ↔
      P x ∨ Q x ∧ ∃ before y after, xs = before ++ y :: after ∧ (∀ z ∈ before, Q z) ∧ P y := by
  constructor
  · intro h
    obtain ⟨before, y, after, heq, hbefore, hy⟩ := h
    cases before with
    | nil =>
      cases heq
      exact .inl hy
    | cons z before =>
      cases heq
      obtain ⟨hx, hbefore⟩ := List.forall_mem_cons.mp hbefore
      exact .inr ⟨hx, before, y, after, rfl, hbefore, hy⟩
  · intro h
    obtain hx | ⟨hx, before, y, after, rfl, hbefore, hy⟩ := h
    · exact ⟨[], x, xs, rfl, nofun, hx⟩
    · exact ⟨x :: before, y, after, rfl, List.forall_mem_cons.mpr ⟨hx, hbefore⟩, hy⟩

theorem not_exists_split_nil {P Q : α → Prop} :
    ¬∃ before y after, [] = before ++ y :: after ∧ (∀ z ∈ before, Q z) ∧ P y := by
  simp

theorem getElem?_concat_eq_some_iff {x y : α} {k : Nat} :
    (xs ++ [x])[k]? = some y ↔ xs[k]? = some y ∨ k = xs.length ∧ x = y := by
  rcases Nat.lt_or_ge k xs.length with hk | hk
  · rw [List.getElem?_append_left hk, or_iff_left fun h => Nat.ne_of_lt hk h.1]
  · rw [List.getElem?_append_right hk, List.getElem?_singleton, List.getElem?_eq_none hk]
    have hlast : k - xs.length = 0 ↔ k = xs.length := by omega
    simp [hlast]

/-- What `g` made of each element is undone by `f`. -/
theorem mapM_map_eq_some {f : β → Option α} {g : α → β} (h : ∀ x ∈ xs, f (g x) = some x) :
    (xs.map g).mapM f = some xs :=
  mapM_eq_some_iff.mpr (List.forall₂_map_left_iff.mpr (List.forall₂_same.mpr h))

end Lists

section Except

variable {ε ε' α β : Type} {x : Except ε α} {f : α → Except ε β} {toError : ε → ε'}

theorem mapError_eq_ok_iff {a : α} : x.mapError toError = .ok a ↔ x = .ok a := by
  cases x <;> simp [Except.mapError]

theorem bind_eq_ok_iff {b : β} : x >>= f = .ok b ↔ ∃ a, x = .ok a ∧ f a = .ok b := by
  cases x <;> simp [bind, Except.bind]

theorem bind_eq_error_iff {e : ε} :
    x >>= f = .error e ↔ x = .error e ∨ ∃ a, x = .ok a ∧ f a = .error e := by
  cases x <;> simp [bind, Except.bind]

theorem mapError_eq_error_iff {e' : ε'} :
    x.mapError toError = .error e' ↔ ∃ e, x = .error e ∧ toError e = e' := by
  cases x <;> simp [Except.mapError]

theorem map_eq_ok_iff {g : α → β} {b : β} : g <$> x = .ok b ↔ ∃ a, x = .ok a ∧ g a = b := by
  cases x <;> simp [Functor.map, Except.map]

theorem map_eq_error_iff {g : α → β} {e : ε} : g <$> x = .error e ↔ x = .error e := by
  cases x <;> simp [Functor.map, Except.map]

/-- A list of results is found element by element. -/
theorem mapM_eq_ok_iff {xs : List α} {ys : List β} :
    xs.mapM f = .ok ys ↔ List.Forall₂ (fun x y => f x = .ok y) xs ys := by
  induction xs generalizing ys with
  | nil =>
    rw [List.mapM_nil, List.forall₂_nil_left_iff]
    exact Except.ok.injEq .. |>.to_iff.trans eq_comm
  | cons x xs ih =>
    simp only [List.mapM_cons, bind_eq_ok_iff, ih, List.forall₂_cons_left_iff]
    constructor
    · intro h
      obtain ⟨y, hy, ys, hys, ⟨⟩⟩ := h
      exact ⟨y, ys, hy, hys, rfl⟩
    · intro h
      obtain ⟨y, ys, hy, hys, rfl⟩ := h
      exact ⟨y, hy, ys, hys, rfl⟩

/-- The first element without a result decides the error. -/
theorem mapM_eq_error_iff {xs : List α} {e : ε} : xs.mapM f = .error e ↔
    ∃ before x after, xs = before ++ x :: after ∧ (∀ y ∈ before, ∃ b, f y = .ok b) ∧
      f x = .error e := by
  induction xs with
  | nil => exact iff_of_false nofun not_exists_split_nil
  | cons x xs ih =>
    rw [exists_split_cons_iff, ← ih, List.mapM_cons, bind_eq_error_iff]
    simp only [bind_eq_error_iff, pure, Except.pure, reduceCtorEq, and_false, exists_false,
      or_false, exists_and_right]

theorem exists_mapM_eq_ok {xs : List α} (h : ∀ x ∈ xs, ∃ y, f x = .ok y) :
    ∃ ys, xs.mapM f = .ok ys := by
  induction xs with
  | nil => exact ⟨[], rfl⟩
  | cons x xs ih =>
    obtain ⟨y, hy⟩ := h x List.mem_cons_self
    obtain ⟨ys, hys⟩ := ih fun x hx => h x (List.mem_cons_of_mem _ hx)
    exact ⟨y :: ys, by rw [List.mapM_cons, hy, hys]; rfl⟩

end Except

namespace Run

variable {α β ε : Type} {x : Run α} {f : α → Run β}

@[simp] theorem pure_result (a : α) : (Pure.pure a : Run α).result = .ok a := rfl

@[simp] theorem report_result (event : Event) : (report event).result = .ok () := rfl

@[simp] theorem fail_result (error : Error) : (fail error : Run α).result = .error error := rfl

@[simp] theorem ofExcept_result (toError : ε → Error) (x : Except ε α) :
    (ofExcept toError x).result = x.mapError toError := rfl

@[simp] theorem pure_events (a : α) : (Pure.pure a : Run α).events = [] := rfl

@[simp] theorem report_events (event : Event) : (report event).events = [event] := rfl

@[simp] theorem fail_events (error : Error) : (fail error : Run α).events = [] := rfl

@[simp] theorem ofExcept_events (toError : ε → Error) (x : Except ε α) :
    (ofExcept toError x).events = [] := rfl

@[ext] theorem ext {y : Run α} (hevents : x.events = y.events) (hresult : x.result = y.result) :
    x = y := by
  cases x
  cases y
  cases hevents
  cases hresult
  rfl

theorem bind_of_ok {a : α} (h : x.result = .ok a) :
    x >>= f = ⟨x.events ++ (f a).events, (f a).result⟩ := by
  show Run.bind x f = _
  simp only [Run.bind, h]

theorem bind_of_error {e : Error} (h : x.result = .error e) : x >>= f = ⟨x.events, .error e⟩ := by
  show Run.bind x f = _
  simp only [Run.bind, h]

/-- What is reported has no part in a result. -/
theorem bind_result : (x >>= f).result = x.result >>= fun a => (f a).result := by
  cases h : x.result with
  | ok a => rw [bind_of_ok h]; rfl
  | error e => rw [bind_of_error h]; rfl

theorem bind_result_eq_ok_iff {b : β} :
    (x >>= f).result = .ok b ↔ ∃ a, x.result = .ok a ∧ (f a).result = .ok b := by
  cases h : x.result with
  | ok a => simp [bind_of_ok h]
  | error e => simp [bind_of_error h]

theorem bind_result_eq_error_iff {e : Error} :
    (x >>= f).result = .error e ↔
      x.result = .error e ∨ ∃ a, x.result = .ok a ∧ (f a).result = .error e := by
  cases h : x.result with
  | ok a => simp [bind_of_ok h]
  | error e => simp [bind_of_error h]

theorem mem_bind_events_iff {event : Event} : event ∈ (x >>= f).events ↔
    event ∈ x.events ∨ ∃ a, x.result = .ok a ∧ event ∈ (f a).events := by
  cases h : x.result with
  | ok a => simp [bind_of_ok h]
  | error e => simp [bind_of_error h]

end Run
end PeriphMap
