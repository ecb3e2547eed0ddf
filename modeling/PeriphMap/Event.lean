import PeriphMap.Config

/-! What a run reports while it goes on. -/

namespace PeriphMap

inductive Level where
  | warn
  | info
  | debug
deriving DecidableEq

def Level.name : Level → String
  | warn => "WARN"
  | info => "INFO"
  | debug => "DEBUG"

inductive Event where
  | loaded (count : Nat) (path : String)
  | skipped (kind : String) (name : Option String)
  | nameCut (identifier : String)
  /-- `first` was the first to have the name `shared` in its name column. -/
  | nameShared (first identifier shared : String)
  | generating (mode : Mode) (blocks devices : Nat)
  | written (bytes : Nat) (path : String)
deriving DecidableEq

namespace Event

def level : Event → Level
  | loaded .. => .info
  | skipped .. => .debug
  | nameCut .. => .warn
  | nameShared .. => .warn
  | generating .. => .debug
  | written .. => .info

/-- The part of the program that an event comes from, as reports name it. -/
def source : Event → String
  | loaded .. => "devmap_generator::load"
  | skipped .. => "devmap_generator::output"
  | nameCut .. => "devmap_generator::encode"
  | nameShared .. => "devmap_generator::output"
  | generating .. => "devmap_generator::codegen"
  | written .. => "devmap"

def text : Event → String
  | loaded count path => "Loaded " ++ toString count ++ " devices from " ++ path
  | skipped kind name => "Skipping " ++ kind ++ " device " ++ name.getD "<unnamed>"
  | nameCut identifier =>
    "Identifier " ++ identifier ++ " is longer than " ++ toString nameWidth ++
      " characters, its name is truncated"
  | nameShared first identifier shared =>
    first ++ " and " ++ identifier ++ " share the table name \"" ++ shared ++ "\""
  | generating mode blocks devices =>
    "Generating " ++ mode.name ++ " table with " ++ toString blocks ++ " of " ++
      toString devices ++ " devices"
  | written bytes path => "Wrote " ++ toString bytes ++ " bytes to " ++ path

end Event
end PeriphMap
