import PeriphMap.CommandLine.Execution
import PeriphMap.Proofs.FileTrees

/-! Commands carried out on a tree of files. A command that fails leaves nothing behind, wherever it
fails, and one that succeeds leaves the whole document where it was wanted and nothing else. -/

namespace PeriphMap

/-! ## Operations that may fail -/

namespace FileTree

/-- What is asked of the operations on a tree. Each of them may fail for reasons of its own, and the
tree stays as it is then, but for a part of what should have been written. One that does not fail
does what the tree's own operation does, except that a temporary file may get any name that is
free. -/
structure Faithful (files : FileSystem (StateM FileTree)) : Prop where
  read (path : String) (tree : FileTree) :
    (∃ fault, files.read path tree = (.error fault, tree)) ∨
      files.read path tree = (tree.read path, tree)
  createTemporary (directory : String) (tree : FileTree) :
    (∃ fault, files.createTemporary directory tree = (.error fault, tree)) ∨
      ∃ path location, tree.node? location = none ∧
        (tree.put location (.file .empty)).locate path = .ok location ∧
        files.createTemporary directory tree = (.ok path, tree.put location (.file .empty))
  write (path : String) (content : ByteArray) (tree : FileTree) :
    (∃ fault part, files.write path content tree =
      (.error fault, (attempt (·.write path part) tree).2)) ∨
      files.write path content tree = attempt (·.write path content) tree
  rename (source target : String) (tree : FileTree) :
    (∃ fault, files.rename source target tree = (.error fault, tree)) ∨
      files.rename source target tree = attempt (·.rename source target) tree
  remove (path : String) (tree : FileTree) : files.remove path tree = ((), tree.remove path)

theorem Faithful.rename_cases {files : FileSystem (StateM FileTree)} (hfiles : Faithful files)
    (source target : String) (tree : FileTree) :
    (∃ fault, files.rename source target tree = (.error fault, tree)) ∨
      ∃ after, tree.rename source target = .ok after ∧
        files.rename source target tree = (.ok (), after) := by
  obtain h | h := hfiles.rename source target tree
  · exact .inl h
  · cases hresult : tree.rename source target with
    | error fault => exact .inl ⟨fault, by simp only [h, attempt, hresult]⟩
    | ok after => exact .inr ⟨after, rfl, by simp only [h, attempt, hresult]⟩

/-- What is read from a file is what it holds. -/
theorem Faithful.read_cases {files : FileSystem (StateM FileTree)} (hfiles : Faithful files)
    (path : String) (tree : FileTree) : ∃ content, files.read path tree = (content, tree) ∧
      ∀ bytes, content = .ok bytes → tree.read path = .ok bytes := by
  obtain ⟨fault, h⟩ | h := hfiles.read path tree
  · exact ⟨.error fault, h, nofun⟩
  · exact ⟨_, h, fun _ => id⟩

/-- The operations of the tree itself fail only where it says so. -/
theorem faithful : Faithful inferInstance where
  read _ _ := .inr rfl
  createTemporary directory tree := by
    cases h : tree.createTemporary directory with
    | error fault => exact .inl ⟨fault, by simp only [FileSystem.createTemporary, h]⟩
    | ok created =>
      obtain ⟨path, tree'⟩ := created
      obtain ⟨location, hnew, rfl, hlocate⟩ := locate_of_create (create_of_createTemporary h)
      exact .inr ⟨path, location, hnew, hlocate, by simp only [FileSystem.createTemporary, h]⟩
  write _ _ _ := .inr rfl
  rename _ _ _ := .inr rfl
  remove _ _ := rfl

end FileTree

/-! ## Documents of files -/

namespace Document

variable {config : Config} {path document : String} {content : Except FileFault ByteArray}

theorem devicesOfFile_result_eq_ok_iff {devices : List Device} :
    (devicesOfFile path content).result = .ok devices ↔
      ∃ bytes text, content = .ok bytes ∧ String.fromUTF8? bytes = some text ∧
        (devicesOfText text).result = .ok devices := by
  simp only [devicesOfFile, Run.bind_result_eq_ok_iff, Run.ofExcept_result, mapError_eq_ok_iff]
  refine exists_congr fun bytes => ?_
  cases htext : String.fromUTF8? bytes with
  | none => simp [Run.bind_of_error]
  | some text =>
    simp only [pure_bind, Run.bind_result_eq_ok_iff, Run.report_result, Run.pure_result,
      Except.ok.injEq, exists_const, true_and, exists_eq_right, Option.some.injEq, exists_and_left,
      exists_eq_left']

/-- The document of a file is that of its text. -/
theorem ofFile_result_eq_ok_iff : (ofFile config path content).result = .ok document ↔
    ∃ bytes text, content = .ok bytes ∧ String.fromUTF8? bytes = some text ∧
      (ofText config text).result = .ok document := by
  simp only [ofFile, ofText, Run.bind_result_eq_ok_iff, devicesOfFile_result_eq_ok_iff]
  constructor
  · intro h
    obtain ⟨devices, ⟨bytes, text, hbytes, htext, hdevices⟩, hdocument⟩ := h
    exact ⟨bytes, text, hbytes, htext, devices, hdevices, hdocument⟩
  · intro h
    obtain ⟨bytes, text, hbytes, htext, devices, hdevices, hdocument⟩ := h
    exact ⟨devices, ⟨bytes, text, hbytes, htext, hdevices⟩, hdocument⟩

end Document

namespace CommandLine

open FileTree

variable {α β : Type} {tree tree' : FileTree} {path document : String} {command : Command}
  {content : Except FileFault ByteArray}

/-! ## Requests -/

/-- The command asks for this document when `content` is read from its input. -/
def Command.Requests (command : Command) (content : Except FileFault ByteArray)
    (document : String) : Prop :=
  ∃ bytes text, content = .ok bytes ∧ String.fromUTF8? bytes = some text ∧
    (Document.ofText { mode := command.mode, strictNames := command.strictNames } text).result =
      .ok document

theorem ofFile_result_eq_ok_iff_requests :
    (Document.ofFile command.config command.input content).result = .ok document ↔
      command.Requests content document :=
  Document.ofFile_result_eq_ok_iff

/-! ## Saving -/

theorem bind_apply {x : StateM FileTree α} {f : α → StateM FileTree β} {a : α}
    (h : x tree = (a, tree')) : (x >>= f) tree = f a tree' := by
  show f (x tree).1 (x tree).2 = f a tree'
  rw [h]

/-- What a tree is like after `content` was put into the file of a path. -/
structure SavedAs (tree : FileTree) (path : String) (content : ByteArray) (after : FileTree) :
    Prop where
  read : after.read path = .ok content
  others : ∃ location, after.locate path = .ok location ∧
    ∀ other, other ≠ location → after.node? other = tree.node? other
  workingDirectory : after.workingDirectory = tree.workingDirectory

theorem savedAs_put {location : Location} {content : ByteArray} (hne : location ≠ [])
    (hlocate : (tree.put location (.file content)).locate path = .ok location) :
    SavedAs tree path content (tree.put location (.file content)) where
  read := read_of_locate hlocate (node?_put_self hne)
  others := ⟨location, hlocate, fun _ hother => node?_put_of_ne hother⟩
  workingDirectory := rfl

/-- Where the document of a successful command is to be found. -/
inductive Delivered (tree : FileTree) (document : String) :
    Option String → (printed : String) → (after : FileTree) → Prop where
  | printed : Delivered tree document none document tree
  | saved {path : String} {after : FileTree} : SavedAs tree path document.toUTF8 after →
      Delivered tree document (some path) "" after

theorem Delivered.saved_inv {printed : String} {after : FileTree}
    (h : Delivered tree document (some path) printed after) :
    printed = "" ∧ SavedAs tree path document.toUTF8 after := by
  cases h with
  | saved h => exact ⟨rfl, h⟩

section

variable [files : FileSystem (StateM FileTree)]

/-- A failed attempt ends with the removal of the temporary file. -/
theorem remove_apply (hfiles : Faithful files) {location : Location} {content : ByteArray}
    {report : Report} (hnew : tree.node? location = none)
    (hlocate : (tree.put location (.file content)).locate path = .ok location) :
    (do
      FileSystem.remove path
      return .error report : StateM FileTree (Except Report Unit))
        (tree.put location (.file content)) = (.error report, tree) := by
  rw [bind_apply (hfiles.remove _ _), remove_put_file hnew hlocate]
  rfl

/-- Saving a document either changes nothing or puts the whole document in its place. -/
theorem save_cases (hfiles : Faithful files) (path document : String) (tree : FileTree) :
    (∃ report, save (m := StateM FileTree) path document tree = (.error report, tree)) ∨
      ∃ after, save (m := StateM FileTree) path document tree = (.ok (), after) ∧
        SavedAs tree path document.toUTF8 after := by
  obtain ⟨fault, hcreate⟩ | ⟨temporary, location, hnew, hlocate, hcreate⟩ :=
    hfiles.createTemporary (Path.directoryOf path) tree
  · left
    rw [save, bind_apply hcreate]
    exact ⟨_, rfl⟩
  have hlocate (content : ByteArray) :
      (tree.put location (.file content)).locate temporary = .ok location :=
    (locate_put_file ..).trans hlocate
  have hwrite (content : ByteArray) :
      attempt (·.write temporary content) (tree.put location (.file .empty)) =
        (.ok (), tree.put location (.file content)) := by
    have hfile : (tree.put location (.file .empty)).node? location = some (.file .empty) :=
      node?_put_self (ne_nil_of_node?_eq_none hnew)
    simp only [attempt, write_of_locate (hlocate .empty) hfile, put_put]
  rw [save, bind_apply hcreate]
  obtain ⟨fault, part, hpart⟩ | hwhole :=
    hfiles.write temporary document.toUTF8 (tree.put location (.file .empty))
  · left
    rw [hwrite] at hpart
    dsimp only
    rw [bind_apply hpart]
    exact ⟨_, remove_apply hfiles hnew (hlocate part)⟩
  rw [hwrite] at hwhole
  dsimp only
  rw [bind_apply hwhole]
  obtain ⟨fault, hrename⟩ | ⟨after, hafter, hrename⟩ := hfiles.rename_cases temporary path
    (tree.put location (.file document.toUTF8))
  · left
    dsimp only
    rw [bind_apply hrename]
    exact ⟨_, remove_apply hfiles hnew (hlocate _)⟩
  · right
    obtain ⟨target, hne, rfl, htarget⟩ := locate_of_rename hnew (hlocate _) hafter
    dsimp only
    rw [bind_apply hrename]
    exact ⟨_, rfl, savedAs_put hne htarget⟩

/-! ## Commands -/

variable {outcome : Outcome} {error : Error}

theorem perform_of_error (hread : files.read command.input tree = (content, tree))
    (h : (Document.ofFile command.config command.input content).result = .error error) :
    ∃ outcome, command.perform (m := StateM FileTree) tree = (outcome, tree) ∧
      outcome.response.status ≠ 0 ∧ outcome.response.output = "" := by
  rw [Command.perform, bind_apply hread]
  simp only [h]
  exact ⟨_, rfl, Nat.one_ne_zero, rfl⟩

theorem perform_of_print (hread : files.read command.input tree = (content, tree))
    (h : (Document.ofFile command.config command.input content).result = .ok document) :
    ∃ outcome, { command with output := none }.perform (m := StateM FileTree) tree =
      (outcome, tree) ∧ outcome.response.status = 0 ∧ outcome.response.output = document := by
  rw [Command.perform, bind_apply hread]
  have h : (Document.ofFile { command with output := none }.config command.input content).result =
    .ok document := h
  simp only [h]
  exact ⟨_, rfl, rfl, rfl⟩

theorem perform_of_save (hfiles : Faithful files)
    (hread : files.read command.input tree = (content, tree))
    (h : (Document.ofFile command.config command.input content).result = .ok document)
    (hsave : command.output = some path) :
    ∃ outcome after, command.perform (m := StateM FileTree) tree = (outcome, after) ∧
      outcome.response.output = "" ∧ (outcome.response.status ≠ 0 ∧ after = tree ∨
        outcome.response.status = 0 ∧ SavedAs tree path document.toUTF8 after) := by
  rw [Command.perform, bind_apply hread]
  simp only [h, hsave]
  obtain ⟨report, hfailed⟩ | ⟨after, hsaved, hafter⟩ := save_cases hfiles path document tree
  · rw [bind_apply hfailed]
    exact ⟨_, tree, rfl, rfl, .inl ⟨Nat.one_ne_zero, rfl⟩⟩
  · rw [bind_apply hsaved]
    exact ⟨_, after, rfl, rfl, .inr ⟨rfl, hafter⟩⟩

/-- Carries out a command on a tree and gives the tree that it leaves. -/
def Command.executeOn (files : FileSystem (StateM FileTree)) (command : Command)
    (tree : FileTree) : Outcome × FileTree :=
  command.execute (m := StateM FileTree) tree

/-- Only the choice of the events that are shown is made after the command was carried out. -/
theorem executeOn_eq (h : command.perform (m := StateM FileTree) tree = (outcome, tree')) :
    command.executeOn files tree =
      ({ outcome with log := outcome.log.filter fun event => command.admits event.level },
        tree') := by
  rw [Command.executeOn, Command.execute, bind_apply h]
  rfl

/-- What the caller of the program gets to see is the response to the outcome. -/
theorem respond_of_executeOn {arguments : List String}
    (harguments : Command.ofArguments arguments = .ok command)
    (h : command.executeOn files tree = (outcome, tree')) :
    respond (m := StateM FileTree) arguments tree = (outcome.response, tree') := by
  rw [respond, harguments]
  exact bind_apply h

/-- A command that fails leaves nothing behind, and one that succeeds delivers the whole document of
its input, the same that is printed when no path is given for it. -/
theorem executeOn_all_or_nothing (hfiles : Faithful files) {after : FileTree}
    (h : command.executeOn files tree = (outcome, after)) :
    (∀ arguments, Command.ofArguments arguments = .ok command →
      respond (m := StateM FileTree) arguments tree = (outcome.response, after)) ∧
    (outcome.response.status ≠ 0 → outcome.response.output = "" ∧ after = tree) ∧
    (outcome.response.status = 0 → ∃ document,
      command.Requests (tree.read command.input) document ∧
      Delivered tree document command.output outcome.response.output after ∧
      ∃ outcome', { command with output := none }.executeOn files tree = (outcome', tree) ∧
        outcome'.response.status = 0 ∧ outcome'.response.output = document) ∧
    (command.output = none → (outcome.response.status = 0 ↔
      ∃ document, command.Requests (files.read command.input tree).1 document)) := by
  obtain ⟨content, hread, hbytes⟩ := hfiles.read_cases command.input tree
  refine ⟨fun arguments harguments => respond_of_executeOn harguments h, ?_⟩
  rw [hread]
  cases hdocument : (Document.ofFile command.config command.input content).result with
  | error error =>
    obtain ⟨outcome', hperform, hstatus, hprinted⟩ := perform_of_error hread hdocument
    cases h.symm.trans (executeOn_eq hperform)
    refine ⟨fun _ => ⟨hprinted, rfl⟩, fun hzero => absurd hzero hstatus, fun _ =>
      ⟨fun hzero => absurd hzero hstatus, fun hsome => ?_⟩⟩
    obtain ⟨document, hrequests⟩ := hsome
    cases hdocument.symm.trans (ofFile_result_eq_ok_iff_requests.mpr hrequests)
  | ok document =>
    have hrequests := ofFile_result_eq_ok_iff_requests.mp hdocument
    have hwanted : command.Requests (tree.read command.input) document := by
      obtain ⟨bytes, text, hcontent, htext, hok⟩ := hrequests
      exact ⟨bytes, text, hbytes bytes hcontent, htext, hok⟩
    obtain ⟨printing, hprint, hstatus, hprinted⟩ := perform_of_print hread hdocument
    have hprinting := executeOn_eq hprint
    cases houtput : command.output with
    | none =>
      have hsame : { command with output := none } = command := by
        cases command
        cases houtput
        rfl
      cases h.symm.trans (hsame ▸ hprinting)
      exact ⟨fun hne => absurd hstatus hne,
        fun _ => ⟨document, hwanted, hprinted ▸ .printed, _, hprinting, hstatus, hprinted⟩,
        fun _ => ⟨fun _ => ⟨document, hrequests⟩, fun _ => hstatus⟩⟩
    | some path =>
      obtain ⟨saving, after', hsave, hquiet, hcases⟩ :=
        perform_of_save hfiles hread hdocument houtput
      cases h.symm.trans (executeOn_eq hsave)
      refine ⟨fun hne => ⟨hquiet, ?_⟩, fun hzero => ?_, nofun⟩
      · obtain ⟨-, hafter⟩ | ⟨hzero, -⟩ := hcases
        · exact hafter
        · exact absurd hzero hne
      · obtain ⟨hne, -⟩ | ⟨-, hsaved⟩ := hcases
        · exact absurd hzero hne
        · exact ⟨document, hwanted, hquiet ▸ .saved hsaved, _, hprinting, hstatus, hprinted⟩

end

/-! ## A device list -/

/-- A device list with one block. -/
def deviceListText : String :=
  "[\x7b\"type\": \"block\", \"name\": \"sdio\", \"address\": \"0\", \"size\": \"0\",
    \"memory_subregion_mask\": \"0\", \"read_only\": true\x7d]"

/-- A working directory that holds the device list. -/
def workplace : FileTree :=
  makeFile ⟨[], ["work"]⟩ ["work", "devices.json"] deviceListText.toUTF8

/-- The device list is read there and its document put under `path`. -/
def Command.saving (path : String) : Command where
  mode := .ada
  input := "devices.json"
  output := some path
  strictNames := false
  verbosity := 0
  quiet := false

/-- The document takes the place of the device list that it was made from, and it does not get into
a directory that is not there. -/
theorem executeOn_all_or_nothing_workplace :
    (∃ response after document,
      respond (m := StateM FileTree) ["ADA", "devices.json", "-o", "devices.json"] workplace =
        (response, after) ∧ response.status = 0 ∧ response.output = "" ∧
      SavedAs workplace "devices.json" document after ∧
      ∃ printing, respond (m := StateM FileTree) ["ADA", "devices.json"] workplace =
        (printing, workplace) ∧ printing.status = 0 ∧ printing.output.toUTF8 = document) ∧
    ∃ response,
      respond (m := StateM FileTree) ["ADA", "devices.json", "-o", "missing/map.ads"] workplace =
        (response, workplace) ∧ response.status = 1 ∧ response.output = "" := by
  constructor
  · obtain ⟨outcome, after, hrun⟩ : ∃ outcome after,
        (Command.saving "devices.json").executeOn inferInstance workplace = (outcome, after) :=
      ⟨_, _, (Prod.eta _).symm⟩
    have hzero :
        ((Command.saving "devices.json").executeOn inferInstance workplace).1.response.status =
          0 := by
      decide +kernel
    rw [hrun] at hzero
    obtain ⟨hrespond, -, hsuccess, -⟩ := executeOn_all_or_nothing faithful hrun
    obtain ⟨document, -, hdelivered, printing, hprinting, hprinted, rfl⟩ := hsuccess hzero
    obtain ⟨hquiet, hsaved⟩ := hdelivered.saved_inv
    exact ⟨outcome.response, after, _, hrespond _ rfl, hzero, hquiet, hsaved, printing.response,
      respond_of_executeOn rfl hprinting, hprinted, rfl⟩
  · obtain ⟨outcome, after, hrun⟩ : ∃ outcome after,
        (Command.saving "missing/map.ads").executeOn inferInstance workplace = (outcome, after) :=
      ⟨_, _, (Prod.eta _).symm⟩
    have hone : ((Command.saving "missing/map.ads").executeOn inferInstance
        workplace).1.response.status = 1 := by
      decide +kernel
    rw [hrun] at hone
    obtain ⟨hrespond, hfailure, -⟩ := executeOn_all_or_nothing faithful hrun
    obtain ⟨hprinted, rfl⟩ := hfailure (hone ▸ Nat.one_ne_zero)
    exact ⟨outcome.response, hrespond _ rfl, hone, hprinted⟩

end CommandLine
end PeriphMap
