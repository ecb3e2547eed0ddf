import PeriphMap.Config
import PeriphMap.Device
import PeriphMap.FileSystem
import PeriphMap.Identifier
import PeriphMap.Interrupt
import PeriphMap.Literal

/-! Everything that can keep a device list from becoming a document. A message names all that its
error is about, so that it can be found in the list. -/

namespace PeriphMap

/-- The fields of a record that are written as number literals. -/
inductive NumberField where
  | address
  | size
  | subregionMask
deriving DecidableEq

namespace NumberField

def key : NumberField → String
  | address => "address"
  | size => "size"
  | subregionMask => "memory_subregion_mask"

def base : NumberField → Base
  | address => .hexadecimal
  | size => .hexadecimal
  | subregionMask => .binary

/-- The width of the component of the table that holds the number. -/
def bits : NumberField → Nat
  | address => 32
  | size => 32
  | subregionMask => 8

def text? (record : Record) : NumberField → Option String
  | address => record.address
  | size => record.size
  | subregionMask => record.subregionMask

theorem key_inj {field other : NumberField} : field.key = other.key ↔ field = other := by
  cases field <;> cases other <;> simp [key]

end NumberField

/-- The fields that a block needs, besides its name, to get an entry. -/
inductive Field where
  | number (field : NumberField)
  | readOnly
deriving DecidableEq

def Field.key : Field → String
  | number field => field.key
  | readOnly => "read_only"

theorem Field.key_inj {field other : Field} : field.key = other.key ↔ field = other := by
  have hnumber (field : NumberField) : field.key ≠ "read_only" := by
    cases field <;> simp [NumberField.key]
  cases field with
  | number field =>
    cases other with
    | number other => simp [key, NumberField.key_inj]
    | readOnly => simp [key, hnumber]
  | readOnly =>
    cases other with
    | number other => simp [key, (hnumber other).symm]
    | readOnly => simp

inductive Error where
  | unreadable (path : String) (cause : FileFault)
  | malformedInput (fault : Device.Fault)
  | missingField (device : String) (field : Field)
  | literal (device : String) (field : NumberField) (text : String) (fault : Literal.Fault)
  | invalidIdentifier (invalid : Identifier.Invalid)
  /-- Only when names have to fit the name column. -/
  | identifierTooLong (identifier : String)
  | duplicateIdentifier (identifier : String)
  | interrupts (device : String) (fault : Interrupt.Fault)

namespace Error

/-- A text between the marks that set it off in a message. -/
def marked (text : String) : String :=
  "`" ++ text ++ "`"

def about (device : String) (text : String) : String :=
  "device " ++ marked device ++ ": " ++ text

def message : Error → String
  | unreadable path cause => "failed to read " ++ path ++ ": " ++ cause.message
  | malformedInput fault => "malformed input: " ++ fault.message
  | missingField device field => about device ("missing field " ++ marked field.key)
  | literal device field text .malformed =>
    about device ("invalid " ++ field.key ++ " literal " ++ marked text)
  | literal device field text .tooWide =>
    about device (field.key ++ " literal " ++ marked text ++ " does not fit in " ++
      toString field.bits ++ " bits")
  | invalidIdentifier invalid =>
    "invalid identifier " ++ marked invalid.word ++ ": " ++ invalid.fault.reason
  | identifierTooLong identifier =>
    "identifier " ++ marked identifier ++ " is longer than " ++ toString nameWidth ++ " characters"
  | duplicateIdentifier identifier => "duplicate identifier " ++ marked identifier
  | interrupts device (.tooMany count) =>
    about device (toString count ++ " interrupts listed, at most " ++
      toString Interrupt.slotCount ++ " supported")
  | interrupts device (.notANumber value) =>
    about device ("invalid interrupt value " ++ marked value.text)

/-! ## What a message names -/

/-- What an error is about: the device first, then the field, then the text that was given. -/
def subjects : Error → List String
  | unreadable path cause => [path, cause.message]
  | malformedInput fault => [fault.message]
  | missingField device field => [device, field.key]
  | literal device field text _ => [device, field.key, text]
  | invalidIdentifier invalid => [invalid.word, invalid.fault.reason]
  | identifierTooLong identifier => [identifier]
  | duplicateIdentifier identifier => [identifier]
  | interrupts device (.tooMany count) => [device, toString count]
  | interrupts device (.notANumber value) => [device, value.text]

/-- The parts stand in the text one behind the other. -/
inductive Names : String → List String → Prop where
  | nil {text : String} : Names text []
  | gap {gap text : String} {parts : List String} : Names text parts → Names (gap ++ text) parts
  | part {part text : String} {parts : List String} :
      Names text parts → Names (part ++ text) (part :: parts)

theorem Names.last (part : String) : Names part [part] := by
  have h : Names (part ++ "") [part] := .part .nil
  rwa [String.append_empty] at h

theorem Names.marked {text part : String} {parts : List String} (h : Names text parts) :
    Names (marked part ++ text) (part :: parts) := by
  simp only [Error.marked, String.append_assoc]
  exact .gap (.part (.gap h))

theorem Names.lastMarked (part : String) : Names (Error.marked part) [part] := by
  simp only [Error.marked, String.append_assoc]
  exact .gap (.part .nil)

theorem Names.about {device text : String} {parts : List String} (h : Names text parts) :
    Names (about device text) (device :: parts) := by
  simp only [Error.about, String.append_assoc]
  exact .gap (.marked (.gap h))

/-- Every message names all that its error is about. -/
theorem names_message (error : Error) : Names error.message error.subjects := by
  unfold message subjects
  cases error with
  | unreadable path cause =>
    simp only [String.append_assoc]
    exact .gap (.part (.gap (.last cause.message)))
  | malformedInput fault => exact .gap (.last fault.message)
  | missingField device field => exact .about (.gap (.lastMarked field.key))
  | literal device field text fault =>
    cases fault with
    | malformed =>
      simp only [String.append_assoc]
      exact .about (.gap (.part (.gap (.lastMarked text))))
    | tooWide =>
      simp only [String.append_assoc]
      exact .about (.part (.gap (.marked .nil)))
  | invalidIdentifier invalid =>
    simp only [String.append_assoc]
    exact .gap (.marked (.gap (.last invalid.fault.reason)))
  | identifierTooLong identifier =>
    simp only [String.append_assoc]
    exact .gap (.marked .nil)
  | duplicateIdentifier identifier => exact .gap (.lastMarked identifier)
  | interrupts device fault =>
    cases fault with
    | tooMany count =>
      simp only [String.append_assoc]
      exact .about (.part .nil)
    | notANumber value => exact .about (.gap (.lastMarked value.text))

end Error
end PeriphMap
