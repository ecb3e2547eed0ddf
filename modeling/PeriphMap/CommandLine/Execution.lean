import PeriphMap.CommandLine.Arguments
import PeriphMap.Document
import PeriphMap.Path
import PeriphMap.Text.ControlSequence

/-! Carrying out a command on a file system. A document takes the place of an older one in one step,
by renaming a finished file, so nobody finds half a document. -/

namespace PeriphMap.CommandLine

/-- What went wrong, and the causes of it, each being the cause of the one before. -/
structure Report where
  context : String
  causes : List String
deriving DecidableEq

namespace Report

/-- Every line of `text` after the first one is indented. -/
def indent (width : Nat) (text : String) : String :=
  String.ofList (text.toList.flatMap fun c =>
    if c = '\n' then '\n' :: List.replicate width ' ' else [c])

def numberedCause (cause : String × Nat) : String :=
  "    " ++ toString cause.2 ++ ": " ++ indent 7 cause.1 ++ "\n"

/-- A single cause is not numbered. -/
def causesText : List String → String
  | [] => ""
  | [cause] => "\nCaused by:\n    " ++ indent 4 cause ++ "\n"
  | causes => "\nCaused by:\n" ++ String.join (causes.zipIdx.map numberedCause)

def text (report : Report) : String :=
  "Error: " ++ report.context ++ "\n" ++ causesText report.causes

def ofGeneration (input : String) (error : Error) : Report where
  context := "Failed to generate device map from " ++ input
  causes :=
    match error with
    | .unreadable _ cause => [error.message, cause.message]
    | _ => [error.message]

/-- A fault of a temporary file. -/
def located (fault : FileFault) (path : String) : String :=
  fault.message ++ " at path " ++ Text.quotePath path

def ofCreation (directory : String) (fault : CreationFault) : Report where
  context := "Failed to create temporary file in " ++ directory
  causes := [located fault.fault fault.path]

def ofWriting (temporary : String) (fault : FileFault) : Report where
  context := located fault temporary
  causes := []

def ofRenaming (path : String) (fault : FileFault) : Report where
  context := "Failed to write " ++ path
  causes := ["failed to persist temporary file: " ++ fault.message, fault.message]

end Report

/-- What a finished command leaves behind, the files apart. -/
structure Outcome where
  /-- The document, if it was printed. -/
  printed : String
  /-- The events that were shown. -/
  log : List Event
  report : Option Report

namespace Outcome

def status (outcome : Outcome) : Nat :=
  if outcome.report.isSome then 1 else 0

def logLine (event : Event) : String :=
  Text.alignLeft event.level.name 5 ++ " [" ++ event.source ++ "] " ++ event.text ++ "\n"

def logText (outcome : Outcome) : String :=
  String.join (outcome.log.map logLine)

def reportText (outcome : Outcome) : String :=
  (outcome.report.map Report.text).getD ""

end Outcome

section

variable {m : Type → Type} [Monad m] [FileSystem m]

/-- Puts a document into a file, in place of the file that is there. -/
def save (path document : String) : m (Except Report Unit) := do
  let directory := Path.directoryOf path
  match ← FileSystem.createTemporary directory with
  | .error fault => return .error (.ofCreation directory fault)
  | .ok temporary =>
    match ← FileSystem.write temporary document.toUTF8 with
    | .error fault =>
      FileSystem.remove temporary
      return .error (.ofWriting temporary fault)
    | .ok () =>
      match ← FileSystem.rename temporary path with
      | .error fault =>
        FileSystem.remove temporary
        return .error (.ofRenaming path fault)
      | .ok () => return .ok ()

/-- The outcome before it is decided which events are shown. -/
def Command.perform (command : Command) : m Outcome := do
  let content ← FileSystem.read command.input
  let run := Document.ofFile command.config command.input content
  match run.result, command.output with
  | .error error, _ => return ⟨"", run.events, some (.ofGeneration command.input error)⟩
  | .ok document, none => return ⟨document, run.events, none⟩
  | .ok document, some path =>
    match ← save path document with
    | .error report => return ⟨"", run.events, some report⟩
    | .ok () => return ⟨"", run.events ++ [.written document.utf8ByteSize path], none⟩

def Command.execute (command : Command) : m Outcome := do
  let outcome ← command.perform
  return { outcome with log := outcome.log.filter fun event => command.admits event.level }

end

/-- What a call of the program gives back. -/
structure Response where
  status : Nat
  output : String
  errors : String

def Halt.response : Halt → Response
  | .help => ⟨0, helpText, ""⟩
  | .version => ⟨0, versionText, ""⟩
  | .misuse m => ⟨2, "", Text.withoutControls m.text⟩

def Outcome.response (outcome : Outcome) : Response where
  status := outcome.status
  output := outcome.printed
  errors := outcome.logText ++ outcome.reportText

def respond {m : Type → Type} [Monad m] [FileSystem m] (arguments : List String) : m Response :=
  match Command.ofArguments arguments with
  | .error halt => return halt.response
  | .ok command => do
    let outcome ← command.execute
    return outcome.response

end PeriphMap.CommandLine
