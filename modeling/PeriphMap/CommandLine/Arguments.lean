import PeriphMap.CommandLine.Command
import PeriphMap.CommandLine.Usage

/-! Reading the arguments of a command line from left to right. A word is looked at when the next
argument is known to start, so of two mistakes the one met first is not always the one whose word
stands first. -/

namespace PeriphMap.CommandLine

/-- A word that has been taken but not looked at. For an output, the word may be still to come. -/
inductive Pending where
  | mode (word : String)
  | input (word : String)
  | output (word : Option String)

/-- What has been read so far. -/
structure Scan where
  mode : Option Mode := none
  input : Option String := none
  output : Option String := none
  strictNames : Bool := false
  verbosity : Nat := 0
  quiet : Bool := false
  /-- Of the options for the amount of reports, the one given last. -/
  lastReports : Argument := .verbose
  pending : Option Pending := none
  /-- How many words were not part of an option. -/
  words : Nat := 0
  /-- No option follows any more. -/
  optionsEnded : Bool := false

namespace Scan

def misuse {α : Type} (m : Misuse) : Except Halt α :=
  .error (.misuse m)

def setOutput (scan : Scan) (path : String) : Except Halt Scan :=
  if scan.output.isSome then misuse (.repeated .output)
  else if path = "" then misuse (.missingValue .output)
  else .ok { scan with output := some path }

/-- Looks at the pending word. -/
def settle (scan : Scan) : Except Halt Scan :=
  let settled := { scan with pending := none }
  match scan.pending with
  | none => .ok settled
  | some (.mode word) =>
    match Mode.ofName? word with
    | some mode => .ok { settled with mode := some mode }
    | none => misuse (.unsupportedMode word)
  | some (.input word) =>
    if word = "" then misuse (.missingValue .input)
    else .ok { settled with input := some word }
  | some (.output none) => misuse (.missingValue .output)
  | some (.output (some word)) => settled.setOutput word

/-- An option that takes effect where it stands, or an output that awaits its word. -/
def option (scan : Scan) (argument : Argument) : Except Halt Scan := do
  let scan ← scan.settle
  match argument with
  | .help => .error .help
  | .version => .error .version
  | .strictNames =>
    if scan.strictNames then misuse (.repeated .strictNames)
    else return { scan with strictNames := true }
  | .quiet =>
    if scan.quiet then misuse (.repeated .quiet)
    else return { scan with quiet := true, lastReports := .quiet }
  | .verbose => return { scan with verbosity := scan.verbosity + 1, lastReports := .verbose }
  | .output => return { scan with pending := some (.output none) }
  | .mode | .input => return scan

/-- An option with a value attached to it. Only an output has use for one. -/
def optionWith (scan : Scan) (argument : Argument) (value : String) : Except Halt Scan :=
  match argument with
  | .output => do
    let scan ← scan.settle
    scan.setOutput value
  | _ => misuse (.unneededValue value argument)

/-- An option by its long name, with the characters after the two hyphens. -/
def long (scan : Scan) (text : List Char) : Except Halt Scan :=
  let name := String.ofList (text.takeWhile (· ≠ '='))
  match Argument.ofLong? name, text.dropWhile (· ≠ '=') with
  | none, _ => misuse (.unknown ("--" ++ name))
  | some argument, [] => scan.option argument
  | some argument, _ :: value => scan.optionWith argument (String.ofList value)

/-- Options by their letters. What follows the letter of an output is its value. -/
def short (scan : Scan) : List Char → Except Halt Scan
  | [] => .ok scan
  | c :: rest =>
    match Argument.ofShort? c, rest with
    | none, _ => misuse (.unknown (String.ofList ['-', c]))
    | some .output, '=' :: value => scan.optionWith .output (String.ofList value)
    | some .output, d :: value => scan.optionWith .output (String.ofList (d :: value))
    | some argument, _ => do
      let scan ← scan.option argument
      scan.short rest

/-- A word that is no option. -/
def word (scan : Scan) (text : String) : Except Halt Scan :=
  match scan.pending, scan.optionsEnded with
  | some (.output none), false => .ok { scan with pending := some (.output (some text)) }
  | _, _ =>
    match scan.words with
    | 0 => do
      let scan ← scan.settle
      return { scan with pending := some (.mode text), words := 1 }
    | 1 => do
      let scan ← scan.settle
      return { scan with pending := some (.input text), words := 2 }
    | _ => misuse (.unknown text)

def argument (scan : Scan) (text : String) : Except Halt Scan :=
  if scan.optionsEnded then scan.word text else
  match text.toList with
  | ['-', '-'] => .ok { scan with optionsEnded := true }
  | '-' :: '-' :: name => scan.long name
  | '-' :: c :: letters => scan.short (c :: letters)
  | _ => scan.word text

/-- Of two options that exclude each other, the one given last is said not to fit. -/
def checkConflict (scan : Scan) : Except Halt Unit :=
  if scan.quiet ∧ 0 < scan.verbosity then
    if scan.lastReports = .verbose then misuse (.conflict .quiet .verbose)
    else misuse (.conflict .verbose .quiet)
  else .ok ()

/-- Options that exclude each other are seen before missing arguments. -/
def finish (scan : Scan) : Except Halt Command := do
  let scan ← scan.settle
  scan.checkConflict
  match scan.mode, scan.input with
  | some mode, some input =>
    return {
      mode
      input
      output := scan.output
      strictNames := scan.strictNames
      verbosity := scan.verbosity
      quiet := scan.quiet }
  | _, _ => misuse .missingArguments

end Scan

def Command.ofArguments (arguments : List String) : Except Halt Command := do
  let scan ← arguments.foldlM Scan.argument {}
  scan.finish

end PeriphMap.CommandLine
