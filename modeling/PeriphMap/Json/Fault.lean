/-! What can be wrong with a text that should be JSON, and where in the text that is. -/

namespace PeriphMap.Json

inductive Fault where
  | endInValue
  | endInString
  | endInList
  | endInObject
  | expectedValue
  | expectedWord
  | expectedColon
  | expectedListEnd
  | expectedObjectEnd
  | expectedKey
  | trailingComma
  | trailingText
  | invalidNumber
  | numberOutOfRange
  | controlCharacter
  | invalidEscape
  | loneSurrogate
  | unfinishedSurrogate
  | tooDeep
deriving DecidableEq

def Fault.message : Fault → String
  | endInValue => "EOF while parsing a value"
  | endInString => "EOF while parsing a string"
  | endInList => "EOF while parsing a list"
  | endInObject => "EOF while parsing an object"
  | expectedValue => "expected value"
  | expectedWord => "expected ident"
  | expectedColon => "expected `:`"
  | expectedListEnd => "expected `,` or `]`"
  | expectedObjectEnd => "expected `,` or `\x7d`"
  | expectedKey => "key must be a string"
  | trailingComma => "trailing comma"
  | trailingText => "trailing characters"
  | invalidNumber => "invalid number"
  | numberOutOfRange => "number out of range"
  | controlCharacter => "control character (\\u0000-\\u001F) found while parsing a string"
  | invalidEscape => "invalid escape"
  | loneSurrogate => "lone leading surrogate in hex escape"
  | unfinishedSurrogate => "unexpected end of hex escape"
  | tooDeep => "recursion limit exceeded"

def byteCount (text : List Char) : Nat :=
  text.foldr (fun c count => c.utf8Size + count) 0

/-- A fault met with `left` bytes of the text to come. -/
structure Failure where
  fault : Fault
  left : Nat

namespace Failure

/-- The fault is seen before anything of `text` is taken. -/
def before (text : List Char) (fault : Fault) : Failure :=
  ⟨fault, byteCount text⟩

/-- The fault is the first byte of `text`, or the end if there is none. -/
def within (text : List Char) (fault : Fault) : Failure :=
  ⟨fault, byteCount text - 1⟩

end Failure

/-- A line number from one, and the number of bytes passed on that line. -/
structure Position where
  line : Nat
  column : Nat
deriving DecidableEq

namespace Position

def start : Position := ⟨1, 0⟩

/-- The position `bytes` further on in `text`. It may fall inside a character. -/
def advance (position : Position) : List Char → (bytes : Nat) → Position
  | [], _ => position
  | c :: rest, bytes =>
    if bytes < c.utf8Size then ⟨position.line, position.column + bytes⟩
    else if c = '\n' then advance ⟨position.line + 1, 0⟩ rest (bytes - c.utf8Size)
    else advance ⟨position.line, position.column + c.utf8Size⟩ rest (bytes - c.utf8Size)

end Position

structure ParseError where
  fault : Fault
  position : Position
deriving DecidableEq

def Failure.locate (failure : Failure) (text : List Char) : ParseError where
  fault := failure.fault
  position := Position.start.advance text (byteCount text - failure.left)

def ParseError.message (error : ParseError) : String :=
  error.fault.message ++ " at line " ++ toString error.position.line ++ " column " ++
    toString error.position.column

end PeriphMap.Json
