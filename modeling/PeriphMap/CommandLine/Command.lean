import PeriphMap.Event

/-! What a command line asks for. -/

namespace PeriphMap.CommandLine

structure Command where
  mode : Mode
  input : String
  /-- Where the document goes. Without a path it is printed. -/
  output : Option String
  strictNames : Bool
  verbosity : Nat
  quiet : Bool

namespace Command

def config (command : Command) : Config where
  mode := command.mode
  strictNames := command.strictNames

/-- Whether events of a level are shown. -/
def admits (command : Command) (level : Level) : Bool :=
  if command.quiet then false else
  match level with
  | .warn => true
  | .info => 1 ≤ command.verbosity
  | .debug => 2 ≤ command.verbosity

end Command
end PeriphMap.CommandLine
