import PeriphMap.Proofs.AllOrNothing

/-! How much of its log a command shows. Nothing else that comes of it depends on that, and what is
shown is a part of the longest log, in its order. -/

namespace PeriphMap.CommandLine

/-! ## What is done and what is shown -/

namespace Command

/-- The commands differ at most in how much of the log they show. -/
structure SameTask (one other : Command) : Prop where
  mode : one.mode = other.mode
  input : one.input = other.input
  output : one.output = other.output
  strictNames : one.strictNames = other.strictNames

/-- The levels that are shown. -/
def shownLevels (command : Command) : List Level :=
  if command.quiet then [] else
  match command.verbosity with
  | 0 => [.warn]
  | 1 => [.warn, .info]
  | _ => [.warn, .info, .debug]

variable {command : Command}

theorem admits_eq (command : Command) (level : Level) :
    command.admits level = decide (level ∈ command.shownLevels) := by
  unfold admits shownLevels
  cases command.quiet with
  | true => rfl
  | false =>
    rcases command.verbosity with _ | _ | verbosity
    · cases level <;> rfl
    · cases level <;> rfl
    · cases level <;> simp

theorem mem_shownLevels_of_loud (hloud : command.quiet = false) (hverbose : 2 ≤ command.verbosity)
    (level : Level) : level ∈ command.shownLevels := by
  obtain ⟨verbosity, h⟩ := Nat.exists_eq_add_of_le' hverbose
  rw [shownLevels, hloud, h]
  cases level <;> simp

end Command

namespace Outcome

/-- The events of some levels only. -/
def restrictTo (levels : List Level) (outcome : Outcome) : Outcome :=
  { outcome with log := outcome.log.filter fun event => event.level ∈ levels }

theorem restrictTo_of_forall_mem {levels : List Level} (h : ∀ level, level ∈ levels)
    (outcome : Outcome) : outcome.restrictTo levels = outcome := by
  rw [restrictTo, List.filter_eq_self.mpr fun event _ => decide_eq_true (h event.level)]

end Outcome

theorem Command.SameTask.perform_eq {m : Type → Type} [Monad m] [FileSystem m]
    {one other : Command} (h : one.SameTask other) : one.perform (m := m) = other.perform := by
  obtain ⟨mode, input, output, strictNames, verbosity, quiet⟩ := one
  obtain ⟨rfl, rfl, rfl, rfl⟩ := h
  rfl

/-! ## Two commands on a tree -/

open FileTree

section

variable [files : FileSystem (StateM FileTree)] {command one other : Command}
  {tree after after' : FileTree} {outcome outcome' : Outcome}

theorem executeOn_restrictTo
    (h : command.perform (m := StateM FileTree) tree = (outcome, after)) :
    command.executeOn files tree = (outcome.restrictTo command.shownLevels, after) := by
  rw [executeOn_eq h]
  simp only [Command.admits_eq, Outcome.restrictTo]

/-- Two commands that differ in nothing but how much they show end alike, with the same document,
the same report and the same tree. What one of them logs is, of what a command logs that shows all,
just the events of the levels it shows. -/
theorem executeOn_same_but_log (hsame : one.SameTask other)
    (h : one.executeOn files tree = (outcome, after))
    (h' : other.executeOn files tree = (outcome', after')) :
    (∀ arguments, Command.ofArguments arguments = .ok one →
      respond (m := StateM FileTree) arguments tree = (outcome.response, after)) ∧
    (∀ arguments, Command.ofArguments arguments = .ok other →
      respond (m := StateM FileTree) arguments tree = (outcome'.response, after')) ∧
    after = after' ∧ outcome.response.status = outcome'.response.status ∧
    outcome.response.output = outcome'.response.output ∧ outcome.report = outcome'.report ∧
    (other.quiet = false → 2 ≤ other.verbosity →
      outcome.log = outcome'.log.filter (fun event => event.level ∈ one.shownLevels) ∧
      outcome.response.errors =
        String.join ((outcome'.log.filter fun event => event.level ∈ one.shownLevels).map
          Outcome.logLine) ++ outcome'.reportText ∧
      outcome'.response.errors =
        String.join (outcome'.log.map Outcome.logLine) ++ outcome'.reportText) := by
  obtain ⟨whole, left, hperform⟩ : ∃ whole left,
      other.perform (m := StateM FileTree) tree = (whole, left) :=
    ⟨_, _, (Prod.eta _).symm⟩
  have hone := executeOn_restrictTo (hsame.perform_eq (m := StateM FileTree) ▸ hperform)
  have hother := executeOn_restrictTo hperform
  obtain ⟨rfl, rfl⟩ := Prod.mk.inj (h.symm.trans hone)
  obtain ⟨rfl, rfl⟩ := Prod.mk.inj (h'.symm.trans hother)
  refine ⟨fun _ harguments => respond_of_executeOn harguments h,
    fun _ harguments => respond_of_executeOn harguments h', rfl, rfl, rfl, rfl, ?_⟩
  intro hloud hverbose
  rw [Outcome.restrictTo_of_forall_mem (Command.mem_shownLevels_of_loud hloud hverbose)]
  exact ⟨rfl, rfl, rfl⟩

end

/-- A document that cannot be put in its place, asked for quietly and with all that there is to
say. -/
theorem executeOn_same_but_log_workplace :
    ∃ (outcome outcome' : Outcome) (after : FileTree),
      respond (m := StateM FileTree) ["ADA", "devices.json", "-q", "-o", "missing/map.ads"]
        workplace = (outcome.response, after) ∧
      respond (m := StateM FileTree) ["ADA", "devices.json", "-vv", "-o", "missing/map.ads"]
        workplace = (outcome'.response, after) ∧
      outcome.status = 1 ∧ outcome'.status = 1 ∧ outcome'.log ≠ [] ∧
      outcome.response.errors = outcome'.reportText := by
  let quiet : Command := { Command.saving "missing/map.ads" with quiet := true }
  let verbose : Command := { Command.saving "missing/map.ads" with verbosity := 2 }
  obtain ⟨outcome, after, h⟩ : ∃ outcome after,
      quiet.executeOn inferInstance workplace = (outcome, after) :=
    ⟨_, _, (Prod.eta _).symm⟩
  obtain ⟨outcome', after', h'⟩ : ∃ outcome after,
      verbose.executeOn inferInstance workplace = (outcome, after) :=
    ⟨_, _, (Prod.eta _).symm⟩
  have hfails : (verbose.executeOn inferInstance workplace).1.status = 1 ∧
      (verbose.executeOn inferInstance workplace).1.log ≠ [] := by
    decide +kernel
  rw [h'] at hfails
  have hsame : quiet.SameTask verbose := ⟨rfl, rfl, rfl, rfl⟩
  obtain ⟨hquiet, hverbose, rfl, hstatus, -, -, hlog⟩ := executeOn_same_but_log hsame h h'
  obtain ⟨-, herrors, -⟩ := hlog rfl (Nat.le_refl 2)
  have hnone : (outcome'.log.filter fun event => event.level ∈ quiet.shownLevels) = [] :=
    List.filter_eq_nil_iff.mpr fun _ _ => Bool.false_ne_true
  refine ⟨outcome, outcome', after, hquiet _ rfl, hverbose _ rfl, hstatus.trans hfails.1,
    hfails.1, hfails.2, ?_⟩
  rw [herrors, hnone]
  exact String.empty_append

end PeriphMap.CommandLine
