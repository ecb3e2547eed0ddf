import PeriphMap.Config

/-! The arguments that the command line knows, and what is said about wrong ones. -/

namespace PeriphMap.CommandLine

inductive Argument where
  | mode
  | input
  | output
  | strictNames
  | verbose
  | quiet
  | help
  | version
deriving DecidableEq

/-- How an argument is called in messages. -/
def Argument.display : Argument → String
  | mode => "<MODE>"
  | input => "<INPUT>"
  | output => "--output <FILE>"
  | strictNames => "--strict-names"
  | verbose => "--verbose..."
  | quiet => "--quiet"
  | help => "--help"
  | version => "--version"

/-- The options by their long names. -/
def Argument.ofLong? : String → Option Argument
  | "output" => some output
  | "strict-names" => some strictNames
  | "verbose" => some verbose
  | "quiet" => some quiet
  | "help" => some help
  | "version" => some version
  | _ => none

/-- The options by their letters. -/
def Argument.ofShort? : Char → Option Argument
  | 'o' => some output
  | 'v' => some verbose
  | 'q' => some quiet
  | 'h' => some help
  | 'V' => some version
  | _ => none

/-- Why a command line asks for nothing that can be done. -/
inductive Misuse where
  | missingArguments
  | unsupportedMode (name : String)
  | unknown (shown : String)
  | missingValue (argument : Argument)
  | unneededValue (value : String) (argument : Argument)
  | repeated (argument : Argument)
  | conflict (one other : Argument)
deriving DecidableEq

/-- A text in a colour of its own on a terminal. The colour ends with the text, and with it any
sequence that the text leaves open. -/
def coloured (text : String) : String :=
  "\x1b[33m" ++ text ++ "\x1b[0m"

/-- A coloured text in quotation marks. -/
def quoted (text : String) : String :=
  "'" ++ coloured text ++ "'"

namespace Misuse

/-- The message for a terminal. -/
def message : Misuse → String
  | missingArguments => "the following required arguments were not provided:"
  | unsupportedMode name =>
    "invalid value " ++ quoted name ++ " for " ++ quoted Argument.mode.display ++ ": " ++
      Mode.unsupported name
  | unknown shown => "unexpected argument " ++ quoted shown ++ " found"
  | missingValue argument =>
    "a value is required for " ++ quoted argument.display ++ " but none was supplied"
  | unneededValue value argument =>
    "unexpected value " ++ quoted value ++ " for " ++ quoted argument.display ++
      " found; no more were expected"
  | repeated argument =>
    "the argument " ++ quoted argument.display ++ " cannot be used multiple times"
  | conflict one other =>
    "the argument " ++ quoted one.display ++ " cannot be used with " ++ quoted other.display

/-- Whether the arguments are in order but for the value of one of them. -/
def concernsValue : Misuse → Bool
  | unsupportedMode _ | missingValue _ => true
  | _ => false

end Misuse

/-- Why there is no command to carry out. -/
inductive Halt where
  | help
  | version
  | misuse (misuse : Misuse)
deriving DecidableEq

def versionText : String := "devmap 0.1.0\n"

def usageText : String := "Usage: devmap [OPTIONS] <MODE> <INPUT>\n"

/-- All that is said about a misuse. Its message is followed by the usage, unless only a value is
wrong. -/
def Misuse.text (misuse : Misuse) : String :=
  coloured "error:" ++ " " ++ misuse.message ++ "\n" ++
    (if misuse.concernsValue then "" else "\n" ++ usageText) ++
    "\nFor more information, try " ++ quoted Argument.help.display ++ ".\n"

def helpText : String :=
  "Generate the peripheral device map from a JSON device list\n\n" ++ usageText ++ "
Arguments:
  <MODE>   Output format (supported: ADA)
  <INPUT>  JSON device list

Options:
  -o, --output <FILE>  Write the generated source to FILE instead of stdout
      --strict-names   Reject device names longer than the table name column
  -v, --verbose...     Increase logging verbosity (-v info, -vv debug)
  -q, --quiet          Only log errors
  -h, --help           Print help
  -V, --version        Print version
"

end PeriphMap.CommandLine
