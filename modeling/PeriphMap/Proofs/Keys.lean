import Mathlib.Data.List.Nodup
import PeriphMap.Json.Parser
import PeriphMap.Proofs.Runs

/-! Keys of the objects that are read from a text. A key that is given again takes the place of the
one before, so no object has two members with one key. -/

namespace PeriphMap.Json

/-- No object in a value has two members with one key. -/
inductive Value.Keyed : Value → Prop where
  | null : Keyed .null
  | bool (b : Bool) : Keyed (.bool b)
  | number (n : Number) : Keyed (.number n)
  | string (s : String) : Keyed (.string s)
  | array {items : List Value} : (∀ value ∈ items, value.Keyed) → Keyed (.array items)
  | object {members : List (String × Value)} : (members.map Prod.fst).Nodup →
      (∀ member ∈ members, member.2.Keyed) → Keyed (.object members)

/-! ## Members -/

section Members

variable {members : List (String × Value)} {name : String} {value : Value}

theorem keys_put (members : List (String × Value)) (name : String) (value : Value) :
    (put members name value).map Prod.fst =
      if name ∈ members.map Prod.fst then members.map Prod.fst
      else members.map Prod.fst ++ [name] := by
  induction members with
  | nil => rfl
  | cons member members ih =>
    rw [put]
    by_cases hname : member.1 = name
    · simp [hname]
    · rw [if_neg hname, List.map_cons, ih]
      by_cases hmem : name ∈ members.map Prod.fst
      · rw [if_pos hmem, if_pos (by simp [hmem])]
        rfl
      · rw [if_neg hmem, if_neg (by simpa [Ne.symm hname] using hmem)]
        rfl

theorem nodup_keys_put (h : (members.map Prod.fst).Nodup) :
    ((put members name value).map Prod.fst).Nodup := by
  rw [keys_put]
  split
  · exact h
  · next hname =>
    exact List.nodup_append_comm.mp (List.nodup_cons.mpr ⟨hname, h⟩)

theorem eq_or_mem_of_mem_put {member : String × Value} (h : member ∈ put members name value) :
    member = (name, value) ∨ member ∈ members := by
  induction members with
  | nil => exact .inl (List.mem_singleton.mp h)
  | cons first members ih =>
    rw [put] at h
    split at h
    · next hname =>
      rw [List.mem_cons, hname] at h
      exact h.imp_right (List.mem_cons_of_mem _)
    · rcases List.mem_cons.mp h with rfl | h
      · exact .inr List.mem_cons_self
      · exact (ih h).imp_right (List.mem_cons_of_mem _)

theorem Value.Keyed.empty : (Value.object []).Keyed :=
  .object List.nodup_nil (List.forall_mem_nil _)

theorem Value.Keyed.put (h : (Value.object members).Keyed) (hvalue : value.Keyed) :
    (Value.object (Json.put members name value)).Keyed := by
  cases h with
  | object hkeys hvalues =>
    refine .object (nodup_keys_put hkeys) fun member hmember => ?_
    obtain rfl | hmember := eq_or_mem_of_mem_put hmember
    · exact hvalue
    · exact hvalues member hmember

end Members

/-! ## Readers -/

/-- Every value that a reader finds has each key once. -/
def Reader.Keyed (item : Reader Value) : Prop :=
  ∀ (text : List Char) (value : Value) (rest : Rest text),
    item text = .ok (value, rest) → value.Keyed

section Readers

variable {α : Type} {item : Reader Value} {text : List Char}

theorem of_afterBlanks {read : Reader α} {a : α} {rest : Rest text}
    (h : afterBlanks read text = .ok (a, rest)) :
    ∃ rest', read (skipBlanks text) = .ok (a, rest') := by
  obtain ⟨⟨a', rest'⟩, hread, ha⟩ := map_eq_ok_iff.mp h
  cases ha
  exact ⟨rest', hread⟩

theorem Reader.Keyed.afterBlanks {read : Reader Value} (hread : read.Keyed) :
    (Json.afterBlanks read).Keyed := by
  intro text value rest h
  obtain ⟨rest', h⟩ := of_afterBlanks h
  exact hread _ _ _ h

theorem keyed_of_elements (hitem : item.Keyed) {values : List Value} {rest : Rest text}
    (h : elements item text = .ok (values, rest)) : ∀ value ∈ values, value.Keyed := by
  fun_induction elements item text generalizing values with
  | case3 text value rest' hvalue =>
    cases h
    exact List.forall_mem_singleton.mpr (hitem _ _ _ hvalue)
  | case6 text value rest' hvalue _ _ _ _ _ ih =>
    obtain ⟨⟨values, _⟩, hvalues, heq⟩ := map_eq_ok_iff.mp h
    cases heq
    exact List.forall_mem_cons.mpr ⟨hitem _ _ _ hvalue, ih hvalues⟩
  | case1 | case2 | case4 | case5 | case7 => cases h

theorem keyed_of_member (hitem : item.Keyed) {found : String × Value} {rest : Rest text}
    (h : member item text = .ok (found, rest)) : found.2.Keyed := by
  obtain ⟨rest', h⟩ := of_afterBlanks h
  obtain ⟨⟨name, rest₁⟩, -, h⟩ := bind_eq_ok_iff.mp h
  obtain ⟨⟨value, rest₂⟩, hvalue, h⟩ := bind_eq_ok_iff.mp h
  cases h
  exact hitem _ _ _ hvalue

theorem keyed_of_members (hitem : item.Keyed) {before all : List (String × Value)}
    {rest : Rest text} (hbefore : (Value.object before).Keyed)
    (h : members item before text = .ok (all, rest)) : (Value.object all).Keyed := by
  fun_induction members item before text generalizing all with
  | case3 before text name value rest' hmember =>
    cases h
    exact hbefore.put (keyed_of_member hitem hmember)
  | case6 before text name value rest' hmember _ _ _ _ _ ih =>
    obtain ⟨⟨all, _⟩, hall, heq⟩ := map_eq_ok_iff.mp h
    cases heq
    exact ih (hbefore.put (keyed_of_member hitem hmember)) hall
  | case1 | case2 | case4 | case5 | case7 => cases h

theorem keyed_array (hitem : item.Keyed) : (array item).Keyed := by
  refine .afterBlanks fun text value rest h => ?_
  split at h
  · cases h
  · cases h
    exact .array (List.forall_mem_nil _)
  · obtain ⟨⟨values, _⟩, hvalues, heq⟩ := map_eq_ok_iff.mp h
    cases heq
    exact .array (keyed_of_elements hitem hvalues)

theorem keyed_object (hitem : item.Keyed) : (object item).Keyed := by
  refine .afterBlanks fun text value rest h => ?_
  split at h
  · cases h
  · cases h
    exact .empty
  · obtain ⟨⟨all, _⟩, hall, heq⟩ := map_eq_ok_iff.mp h
    cases heq
    exact keyed_of_members hitem .empty hall

theorem keyed_valueWith {inner? : Option (Reader Value)} (hinner : ∀ item ∈ inner?, item.Keyed) :
    (valueWith inner?).Keyed := by
  refine .afterBlanks fun text value rest h => ?_
  split at h
  case h_1 => cases h
  case h_2 | h_3 | h_4 | h_5 | h_6 =>
    obtain ⟨_, -, heq⟩ := map_eq_ok_iff.mp h
    cases heq
    constructor
  case h_7 =>
    split at h
    · next item =>
      obtain ⟨_, hvalue, heq⟩ := map_eq_ok_iff.mp h
      cases heq
      exact keyed_array (hinner item rfl) _ _ _ hvalue
    · cases h
  case h_8 =>
    split at h
    · next item =>
      obtain ⟨_, hvalue, heq⟩ := map_eq_ok_iff.mp h
      cases heq
      exact keyed_object (hinner item rfl) _ _ _ hvalue
    · cases h
  case h_9 =>
    split at h
    · obtain ⟨_, -, heq⟩ := map_eq_ok_iff.mp h
      cases heq
      constructor
    · cases h

theorem keyed_value (depth : Nat) : (value depth).Keyed := by
  induction depth with
  | zero => exact keyed_valueWith nofun
  | succ depth ih =>
    refine keyed_valueWith fun item hitem => ?_
    cases hitem
    exact ih

end Readers

theorem keyed_of_parse {text : String} {value : Value} (h : parse text = .ok value) :
    value.Keyed := by
  rw [parse] at h
  split at h
  · cases h
  · next hvalue =>
    split at h
    · cases h
      exact keyed_value _ _ _ _ hvalue
    · cases h

end PeriphMap.Json
