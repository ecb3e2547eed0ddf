import Mathlib.Data.List.DropRight
import PeriphMap.FileTree
import PeriphMap.Proofs.Runs

/-! Trees of files. What an operation does to a tree is said of the nodes at its locations, and a
walk along a path depends on nothing but the directories that it goes through. -/

namespace PeriphMap.FileTree

variable {tree tree' : FileTree} {location other directory : Location} {node node' : Node}
  {nodes : List (Location × Node)} {path part : String} {parts : List String}

/-! ## Nodes -/

theorem lookup_putNode_self (nodes : List (Location × Node)) :
    (putNode location node nodes).lookup location = some node := by
  induction nodes with
  | nil => simp [putNode]
  | cons entry rest ih =>
    rw [putNode]
    split
    next heq => simp [heq]
    next hne => rw [List.lookup_cons, beq_false_of_ne (Ne.symm hne), ih]

theorem lookup_putNode_of_ne (h : other ≠ location) (nodes : List (Location × Node)) :
    (putNode location node nodes).lookup other = nodes.lookup other := by
  induction nodes with
  | nil => simp [putNode, h]
  | cons entry rest ih =>
    rw [putNode]
    split
    next heq => rw [List.lookup_cons, List.lookup_cons, heq, beq_false_of_ne h]
    next => rw [List.lookup_cons, List.lookup_cons, ih]

theorem putNode_putNode (nodes : List (Location × Node)) :
    putNode location node' (putNode location node nodes) = putNode location node' nodes := by
  induction nodes with
  | nil => simp [putNode]
  | cons entry rest ih =>
    by_cases heq : entry.1 = location
    · simp [putNode, heq]
    · simp [putNode, heq, ih]

theorem filter_putNode (h : nodes.lookup location = none) :
    (putNode location node nodes).filter (·.1 ≠ location) = nodes := by
  induction nodes with
  | nil => simp [putNode]
  | cons entry rest ih =>
    rw [List.lookup_cons] at h
    split at h
    next => contradiction
    next hne =>
      have hne : entry.1 ≠ location := fun heq => by simp [heq] at hne
      rw [putNode, if_neg hne, List.filter_cons, if_pos (decide_eq_true hne), ih h]

theorem ne_nil_of_node?_eq_none (h : tree.node? location = none) : location ≠ [] := by
  rintro rfl
  cases h

theorem node?_of_ne_nil (h : location ≠ []) : tree.node? location = tree.nodes.lookup location :=
  if_neg h

theorem node?_put_self (h : location ≠ []) :
    (tree.put location node).node? location = some node := by
  rw [node?_of_ne_nil h]
  exact lookup_putNode_self tree.nodes

theorem node?_put_of_ne (h : other ≠ location) :
    (tree.put location node).node? other = tree.node? other := by
  unfold node?
  split
  · rfl
  · exact lookup_putNode_of_ne h tree.nodes

theorem put_put : (tree.put location node).put location node' = tree.put location node' := by
  unfold put
  rw [putNode_putNode]

/-- A node that was not there before leaves no trace when it is taken away again. -/
theorem erase_put (h : tree.node? location = none) :
    (tree.put location node).erase location = tree := by
  rw [node?_of_ne_nil (ne_nil_of_node?_eq_none h)] at h
  unfold put erase
  rw [filter_putNode h]

/-! ## Walks -/

/-- All directories of the first tree are there in the second one. -/
structure Keeps (tree tree' : FileTree) : Prop where
  workingDirectory : tree'.workingDirectory = tree.workingDirectory
  directory : ∀ location, tree.isDirectory location → tree'.isDirectory location

theorem isDirectory_iff : tree.isDirectory location ↔ tree.node? location = some .directory := by
  unfold isDirectory
  split <;> simp_all

theorem keeps_put (h : tree.isDirectory location = false) :
    Keeps tree (tree.put location node) where
  workingDirectory := rfl
  directory other hother := by
    have hne : other ≠ location := by
      rintro rfl
      exact absurd hother (by simp [h])
    rwa [isDirectory_iff, node?_put_of_ne hne, ← isDirectory_iff]

theorem isDirectory_of_node?_eq_none (h : tree.node? location = none) :
    tree.isDirectory location = false := by
  rw [Bool.eq_false_iff, ne_eq, isDirectory_iff, h]
  nofun

/-- Taking a file away takes no directory away. -/
theorem keeps_of_put_file {content : ByteArray} :
    Keeps (tree.put location (.file content)) tree where
  workingDirectory := rfl
  directory other hother := by
    rw [isDirectory_iff] at hother ⊢
    by_cases hroot : other = []
    · exact if_pos hroot
    have hne : other ≠ location := by
      rintro rfl
      rw [node?_put_self hroot] at hother
      cases hother
    rwa [node?_put_of_ne hne] at hother

theorem Keeps.trans {tree'' : FileTree} (h : Keeps tree tree') (h' : Keeps tree' tree'') :
    Keeps tree tree'' where
  workingDirectory := h'.workingDirectory.trans h.workingDirectory
  directory location hlocation := h'.directory location (h.directory location hlocation)

/-- A part of a path that names something in a directory. -/
structure IsName (part : String) : Prop where
  nonempty : part ≠ ""
  ne_here : part ≠ "."
  ne_up : part ≠ ".."
  short : part.utf8ByteSize ≤ longestName

/-- Where a part of a path leads from a directory. -/
inductive StepsTo (tree : FileTree) (location : Location) : String → Location → Prop where
  | blank : StepsTo tree location "" location
  | here : StepsTo tree location "." location
  | up : StepsTo tree location ".." location.dropLast
  | down {part : String} {node : Node} : IsName part →
      tree.node? (location ++ [part]) = some node → StepsTo tree location part (location ++ [part])

theorem step_eq_ok_iff : tree.step location part = .ok other ↔
    tree.isDirectory location ∧ StepsTo tree location part other := by
  constructor
  · intro h
    unfold step at h
    split_ifs at h with hlocation hstay hup hlong hnode <;> cases h
    all_goals
      rw [Bool.not_eq_true, Bool.not_eq_false'] at hlocation
      refine ⟨hlocation, ?_⟩
    · rcases hstay with rfl | rfl
      · exact .blank
      · exact .here
    · exact hup ▸ .up
    · rw [not_or] at hstay
      rw [Bool.not_eq_true, Option.isNone_eq_false_iff, Option.isSome_iff_exists] at hnode
      obtain ⟨node, hnode⟩ := hnode
      exact .down ⟨hstay.1, hstay.2, hup, Nat.le_of_not_lt hlong⟩ hnode
  · intro h
    obtain ⟨hlocation, hsteps⟩ := h
    cases hsteps with
    | blank | here | up => simp [step, hlocation]
    | down hname hnode =>
      obtain ⟨hnonempty, hhere, hup, hshort⟩ := hname
      simp [step, hlocation, hnonempty, hhere, hup, Nat.not_lt_of_le hshort, hnode]

/-- A step to a directory is the same in a tree with more directories. -/
theorem Keeps.step (hkeeps : Keeps tree tree') (h : tree.step location part = .ok other)
    (hother : tree.isDirectory other) : tree'.step location part = .ok other := by
  obtain ⟨hlocation, hsteps⟩ := step_eq_ok_iff.mp h
  refine step_eq_ok_iff.mpr ⟨hkeeps.directory _ hlocation, ?_⟩
  cases hsteps with
  | blank => exact .blank
  | here => exact .here
  | up => exact .up
  | down hname _ => exact .down hname (isDirectory_iff.mp (hkeeps.directory _ hother))

/-- Every step but the last one starts where the step before ends, so it goes from a directory. -/
theorem Keeps.walk (hkeeps : Keeps tree tree') (h : parts.foldlM tree.step location = .ok other)
    (hother : tree.isDirectory other) : parts.foldlM tree'.step location = .ok other := by
  induction parts using List.reverseRecOn generalizing other with
  | nil => exact h
  | append_singleton parts part ih =>
    simp only [List.foldlM_append, List.foldlM_cons, List.foldlM_nil, bind_pure, bind_eq_ok_iff]
      at h ⊢
    obtain ⟨before, hbefore, hlast⟩ := h
    exact ⟨before, ih hbefore (step_eq_ok_iff.mp hlast).1, hkeeps.step hlast hother⟩

/-! ## Places -/

theorem trimEnd_eq_self {idle : String → Bool}
    (h : ¬(Path.trimEnd idle parts).length < parts.length) : Path.trimEnd idle parts = parts := by
  have hprefix : Path.trimEnd idle parts <+: parts := List.rdropWhile_prefix idle parts
  exact hprefix.eq_of_length_le (Nat.le_of_not_lt h)

theorem not_idle_of_getLast?_trimEnd {idle : String → Bool}
    (h : (Path.trimEnd idle parts).getLast? = some part) : ¬idle part := by
  obtain ⟨hne, rfl⟩ := List.mem_getLast?_eq_getLast h
  exact List.rdropWhile_last_not idle parts hne

/-- What a place without a slash behind it is found from. -/
structure PlacedAt (tree : FileTree) (path : String) (place : Place) : Prop where
  checked : checkPath path = .ok ()
  parts : Path.parts path = (Path.parts path).dropLast ++ [place.name]
  walk : (Path.parts path).dropLast.foldlM tree.step (tree.start path) = .ok place.directory
  directory : tree.isDirectory place.directory
  name : IsName place.name

theorem placedAt_of_place {place : Place} (h : tree.place path = .ok place)
    (hslash : place.slash = false) : PlacedAt tree path place := by
  simp only [FileTree.place, bind_eq_ok_iff] at h
  obtain ⟨_, hchecked, directory, hwalk, h⟩ := h
  split at h
  · cases h
  next name hlast =>
    split_ifs at h with hdirectory hdots hlong
    cases h
    rw [Bool.not_eq_true, Bool.not_eq_false'] at hdirectory
    rw [not_or] at hdots
    have hname := not_idle_of_getLast?_trimEnd hlast
    rw [trimEnd_eq_self (of_decide_eq_false hslash)] at hwalk hlast
    exact ⟨hchecked, (List.dropLast_append_getLast? name hlast).symm, hwalk, hdirectory,
      ⟨of_decide_eq_false (Bool.not_eq_true _ ▸ hname), hdots.1, hdots.2, Nat.le_of_not_lt hlong⟩⟩

/-- A place leads to the node there, also when that node was put there later. -/
theorem PlacedAt.locate {place : Place} (h : PlacedAt tree path place) (hkeeps : Keeps tree tree')
    (hnode : tree'.node? place.location = some node) : tree'.locate path = .ok place.location := by
  have hstart : tree'.start path = tree.start path := by
    rw [start, start, hkeeps.workingDirectory]
  rw [FileTree.locate, h.checked, h.parts, hstart, List.foldlM_append]
  simp only [List.foldlM_cons, List.foldlM_nil, bind_pure, bind_eq_ok_iff]
  exact ⟨(), trivial, _, hkeeps.walk h.walk h.directory,
    step_eq_ok_iff.mpr ⟨hkeeps.directory _ h.directory, .down h.name hnode⟩⟩

/-! ## Operations -/

theorem read_of_locate {content : ByteArray} (h : tree.locate path = .ok location)
    (hnode : tree.node? location = some (.file content)) : tree.read path = .ok content := by
  simp only [read, h, hnode, bind, Except.bind, pure, Except.pure]

theorem write_of_locate {content content' : ByteArray} (h : tree.locate path = .ok location)
    (hnode : tree.node? location = some (.file content)) :
    tree.write path content' = .ok (tree.put location (.file content')) := by
  simp only [write, h, hnode, bind, Except.bind, pure, Except.pure]

theorem remove_of_locate (h : tree.locate path = .ok location) :
    tree.remove path = tree.erase location := by
  simp only [remove, h]

/-- The content of a file has no part in where paths lead. -/
theorem locate_put_file (content content' : ByteArray) (path : String) :
    (tree.put location (.file content)).locate path =
      (tree.put location (.file content')).locate path := by
  have hnode (other : Location) : (tree.put location (.file content)).node? other =
        (tree.put location (.file content')).node? other ∨
      (tree.put location (.file content)).node? other = some (.file content) ∧
        (tree.put location (.file content')).node? other = some (.file content') := by
    by_cases hroot : other = []
    · exact .inl ((if_pos hroot).trans (if_pos hroot).symm)
    by_cases heq : other = location
    · subst heq
      exact .inr ⟨node?_put_self hroot, node?_put_self hroot⟩
    · exact .inl ((node?_put_of_ne heq).trans (node?_put_of_ne heq).symm)
  have hstep : (tree.put location (.file content)).step =
      (tree.put location (.file content')).step := by
    funext other part
    have hdirectory : (tree.put location (.file content)).isDirectory other =
        (tree.put location (.file content')).isDirectory other := by
      rcases hnode other with h | ⟨h, h'⟩ <;> simp [isDirectory, *]
    have hnone : ((tree.put location (.file content)).node? (other ++ [part])).isNone =
        ((tree.put location (.file content')).node? (other ++ [part])).isNone := by
      rcases hnode (other ++ [part]) with h | ⟨h, h'⟩ <;> simp [*]
    rw [step, step, hdirectory, hnone]
  rw [locate, locate, hstep]
  rfl

/-- A file that was not there before leaves no trace when it is removed. -/
theorem remove_put_file {content : ByteArray} (hnew : tree.node? location = none)
    (h : (tree.put location (.file content)).locate path = .ok location) :
    (tree.put location (.file content)).remove path = tree := by
  rw [remove_of_locate h, erase_put hnew]

/-- A new file is found under the path that it was made for. -/
theorem locate_of_create (h : tree.create path = .ok tree') :
    ∃ location, tree.node? location = none ∧ tree' = tree.put location (.file .empty) ∧
      tree'.locate path = .ok location := by
  simp only [create, bind_eq_ok_iff] at h
  obtain ⟨place, hplace, h⟩ := h
  split_ifs at h with hnode hslash
  cases h
  rw [Bool.not_eq_true] at hslash
  rw [Bool.not_eq_true, Option.isSome_eq_false_iff, Option.isNone_iff_eq_none] at hnode
  exact ⟨place.location, hnode, rfl, (placedAt_of_place hplace hslash).locate
    (keeps_put (isDirectory_of_node?_eq_none hnode))
    (node?_put_self (ne_nil_of_node?_eq_none hnode))⟩

theorem create_of_createTemporary {directory : String}
    (h : tree.createTemporary directory = .ok (path, tree')) : tree.create path = .ok tree' := by
  simp only [createTemporary] at h
  split at h
  next hcreate =>
    cases h
    exact hcreate
  next => cases h

/-- A new file keeps its content under its new path, and nothing else comes of it. -/
theorem locate_of_rename {source : String} {content : ByteArray} (hnew : tree.node? location = none)
    (hsource : (tree.put location (.file content)).locate source = .ok location)
    (h : (tree.put location (.file content)).rename source path = .ok tree') :
    ∃ target, target ≠ [] ∧ tree' = tree.put target (.file content) ∧
      tree'.locate path = .ok target := by
  have hfile : (tree.put location (.file content)).node? location = some (.file content) :=
    node?_put_self (ne_nil_of_node?_eq_none hnew)
  simp only [rename, hsource, read_of_locate hsource hfile, bind_eq_ok_iff, Except.ok.injEq,
    exists_eq_left'] at h
  obtain ⟨place, hplace, h⟩ := h
  split_ifs at h with hslash hdirectory
  cases h
  rw [erase_put hnew]
  rw [Bool.not_eq_true] at hslash hdirectory
  have hne : place.location ≠ [] := List.append_ne_nil_of_right_ne_nil _ (List.cons_ne_nil _ _)
  have hback : Keeps (tree.put location (.file content)) tree := keeps_of_put_file
  have hkeeps : Keeps tree (tree.put place.location (.file content)) := by
    refine keeps_put (Bool.eq_false_iff.mpr fun htarget => ?_)
    exact absurd ((keeps_put (isDirectory_of_node?_eq_none hnew)).directory _ htarget)
      (by rw [hdirectory]; exact Bool.false_ne_true)
  exact ⟨place.location, hne, rfl, (placedAt_of_place hplace hslash).locate (hback.trans hkeeps)
    (node?_put_self hne)⟩

end PeriphMap.FileTree
