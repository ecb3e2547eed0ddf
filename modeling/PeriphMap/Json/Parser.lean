import PeriphMap.Json.Fault
import PeriphMap.Json.Numeral

/-! Reading a value from JSON text. Every reader gives back what is left of the text together with
the fact that this is shorter, so a reader that repeats another one comes to an end. -/

namespace PeriphMap.Json

/-- What is left after something has been taken from `text`. -/
abbrev Rest (text : List Char) := { rest : List Char // rest.length < text.length }

/-- What is left after something or nothing has been taken from `text`. -/
abbrev Remainder (text : List Char) := { rest : List Char // rest.length ≤ text.length }

abbrev Reader (α : Type) := (text : List Char) → Except Failure (α × Rest text)

namespace Rest

def ofLe {text rest : List Char} (r : Rest rest) (h : rest.length ≤ text.length) : Rest text :=
  ⟨r.val, by have := r.property; omega⟩

end Rest

/-! ### Blanks and words -/

def isBlank (c : Char) : Bool :=
  c = ' ' || c = '\t' || c = '\n' || c = '\r'

def skipBlanks (text : List Char) : List Char :=
  text.dropWhile isBlank

theorem length_skipBlanks_le (text : List Char) : (skipBlanks text).length ≤ text.length :=
  (List.dropWhile_sublist isBlank).length_le

def afterBlanks {α : Type} (read : Reader α) : Reader α := fun text =>
  (read (skipBlanks text)).map fun (a, rest) => (a, rest.ofLe (length_skipBlanks_le text))

/-- The letters of `word` that are still to come. -/
def spelled : List Char → (text : List Char) → Except Failure (Remainder text)
  | [], text => .ok ⟨text, Nat.le_refl _⟩
  | _ :: _, [] => .error (.before [] .endInValue)
  | letter :: word, c :: rest =>
    if c = letter then
      (spelled word rest).map fun r => ⟨r.val, Nat.le_succ_of_le r.property⟩
    else .error (.within (c :: rest) .expectedWord)

/-! ### Strings -/

/-- Four bytes are taken before they are looked at. -/
def fourHexDigits : Reader Nat
  | a :: b :: c :: d :: rest =>
    if [a, b, c, d].all fun x => (Text.digit? 16 x).isSome then
      .ok (Text.valueOf 16 [a, b, c, d], ⟨rest, by simp; omega⟩)
    else .error ⟨.invalidEscape, byteCount (a :: b :: c :: d :: rest) - 4⟩
  | text =>
    if byteCount text < 4 then .error ⟨.endInString, 0⟩
    else .error ⟨.invalidEscape, byteCount text - 4⟩

def isLeadingSurrogate (code : Nat) : Bool :=
  0xD800 ≤ code && code ≤ 0xDBFF

def isTrailingSurrogate (code : Nat) : Bool :=
  0xDC00 ≤ code && code ≤ 0xDFFF

/-- The character that two surrogates make up. -/
def joinSurrogates (leading trailing : Nat) : Char :=
  .ofNat (0x10000 + (leading - 0xD800) * 0x400 + (trailing - 0xDC00))

/-- The second half of a pair, an escape of its own. -/
def trailingSurrogate : Reader Nat
  | [] => .error (.before [] .endInString)
  | ['\\'] => .error (.before [] .endInString)
  | '\\' :: 'u' :: text => do
    let (code, rest) ← fourHexDigits text
    if isTrailingSurrogate code then return (code, rest.ofLe (by simp; omega))
    else .error (.before rest.val .loneSurrogate)
  | '\\' :: text => .error (.within text .unfinishedSurrogate)
  | text => .error (.within text .unfinishedSurrogate)

/-- A character given by the hexadecimal digits of its code, or by those of two surrogates. -/
def codedCharacter : Reader Char := fun text => do
  let (code, rest) ← fourHexDigits text
  if isTrailingSurrogate code then
    .error (.before rest.val .loneSurrogate)
  else if isLeadingSurrogate code then do
    let (trailing, rest') ← trailingSurrogate rest.val
    return (joinSurrogates code trailing, rest'.ofLe (Nat.le_of_lt rest.property))
  else
    return (.ofNat code, rest)

/-- What a letter after a backslash stands for. -/
def escapedCharacter? : Char → Option Char
  | '"' => some '"'
  | '\\' => some '\\'
  | '/' => some '/'
  | 'b' => some '\x08'
  | 'f' => some '\x0c'
  | 'n' => some '\n'
  | 'r' => some '\r'
  | 't' => some '\t'
  | _ => none

/-- The rest of an escape after its backslash. -/
def escaped : Reader Char
  | [] => .error (.before [] .endInString)
  | 'u' :: text => (codedCharacter text).map fun (c, rest) => (c, rest.ofLe (by simp))
  | letter :: rest =>
    match escapedCharacter? letter with
    | some c => .ok (c, ⟨rest, by simp⟩)
    | none => .error (.within (letter :: rest) .invalidEscape)

/-- The characters of a string up to and with the closing quote. -/
def stringCharacters (text : List Char) : Except Failure (List Char × Rest text) :=
  match text with
  | [] => .error (.before [] .endInString)
  | '"' :: rest => .ok ([], ⟨rest, by simp⟩)
  | '\\' :: rest =>
    match escaped rest with
    | .error failure => .error failure
    | .ok (c, rest') =>
      (stringCharacters rest'.val).map fun (cs, end_) =>
        (c :: cs, end_.ofLe (by have := rest'.property; simp; omega))
  | c :: rest =>
    if c.toNat < 0x20 then .error (.within (c :: rest) .controlCharacter)
    else (stringCharacters rest).map fun (cs, end_) => (c :: cs, end_.ofLe (by simp))
termination_by text.length
decreasing_by
  · have := rest'.property; simp; omega
  · simp

/-- A string after its opening quote. -/
def string : Reader String := fun text =>
  (stringCharacters text).map fun (cs, rest) => (.ofList cs, rest)

/-! ### Numbers -/

theorem length_dropDigits_le (text : List Char) :
    (text.dropWhile Char.isDigit).length ≤ text.length :=
  (List.dropWhile_sublist Char.isDigit).length_le

/-- At least one digit, none of them following a zero at the start. -/
def wholePart : Reader (List Char)
  | [] => .error (.before [] .endInValue)
  | c :: rest =>
    if !c.isDigit then .error (.within (c :: rest) .invalidNumber)
    else if c ≠ '0' then
      .ok (c :: rest.takeWhile Char.isDigit, ⟨rest.dropWhile Char.isDigit,
        Nat.lt_succ_of_le (length_dropDigits_le rest)⟩)
    else if rest.head?.any Char.isDigit then .error (.within rest .invalidNumber)
    else .ok ([c], ⟨rest, by simp⟩)

def fractionPart : (text : List Char) → Except Failure (Option (List Char) × Remainder text)
  | ['.'] => .error (.within [] .endInValue)
  | '.' :: c :: rest =>
    if c.isDigit then
      .ok (some (c :: rest.takeWhile Char.isDigit), ⟨rest.dropWhile Char.isDigit, by
        have := length_dropDigits_le rest
        simp
        omega⟩)
    else .error (.within (c :: rest) .invalidNumber)
  | text => .ok (none, ⟨text, Nat.le_refl _⟩)

/-- The digits of an exponent after its letter and sign. -/
def exponentDigits : Reader (List Char)
  | [] => .error (.before [] .endInValue)
  | c :: rest =>
    if c.isDigit then
      .ok (c :: rest.takeWhile Char.isDigit, ⟨rest.dropWhile Char.isDigit,
        Nat.lt_succ_of_le (length_dropDigits_le rest)⟩)
    else .error (.within (c :: rest) .invalidNumber)

/-- The digits of an exponent after its letter. -/
def signedExponent : Reader (Bool × List Char)
  | '-' :: text => (exponentDigits text).map fun (ds, rest) => ((true, ds), rest.ofLe (by simp))
  | '+' :: text => (exponentDigits text).map fun (ds, rest) => ((false, ds), rest.ofLe (by simp))
  | text => (exponentDigits text).map fun (ds, rest) => ((false, ds), rest)

def exponentPart :
    (text : List Char) → Except Failure (Option (Bool × List Char) × Remainder text)
  | [] => .ok (none, ⟨[], Nat.le_refl _⟩)
  | c :: rest =>
    if c = 'e' ∨ c = 'E' then
      (signedExponent rest).map fun (exponent, r) =>
        (some exponent, ⟨r.val, by have := r.property; simp; omega⟩)
    else .ok (none, ⟨c :: rest, Nat.le_refl _⟩)

/-- A number after its minus sign, if it has one. -/
def number (negative : Bool) : Reader Number := fun text => do
  let (whole, rest₁) ← wholePart text
  let (fraction, rest₂) ← fractionPart rest₁.val
  let (exponent, rest₃) ← exponentPart rest₂.val
  match (Numeral.mk negative whole fraction exponent).number with
  | .ok n =>
    return (n, ⟨rest₃.val, by
      have := rest₁.property
      have := rest₂.property
      have := rest₃.property
      omega⟩)
  | .error overflow => .error ⟨.numberOutOfRange, byteCount rest₃.val + overflow.unread⟩

/-! ### Values -/

/-- The elements of an array from the first one up to and with the closing bracket. -/
def elements (item : Reader Value) (text : List Char) : Except Failure (List Value × Rest text) :=
  match item text with
  | .error failure => .error failure
  | .ok (value, rest) =>
    match h : skipBlanks rest.val with
    | [] => .error (.within [] .endInList)
    | ']' :: more =>
      .ok ([value], ⟨more, by
        have := rest.property
        have := length_skipBlanks_le rest.val
        simp [h] at this
        omega⟩)
    | ',' :: more =>
      have shorter : more.length < text.length := by
        have := rest.property
        have := length_skipBlanks_le rest.val
        simp [h] at this
        omega
      match skipBlanks more with
      | [] => .error (.within [] .endInValue)
      | ']' :: after => .error (.within (']' :: after) .trailingComma)
      | _ =>
        (elements item more).map fun (values, end_) =>
          (value :: values, end_.ofLe (Nat.le_of_lt shorter))
    | other => .error (.within other .expectedListEnd)
termination_by text.length

/-- A key and the colon behind it. -/
def key : Reader String
  | '"' :: text => do
    let (name, rest) ← string text
    match h : skipBlanks rest.val with
    | ':' :: more =>
      return (name, ⟨more, by
        have := rest.property
        have := length_skipBlanks_le rest.val
        simp [h] at this
        simp
        omega⟩)
    | [] => .error (.within [] .endInObject)
    | other => .error (.within other .expectedColon)
  | text => .error (.within text .expectedKey)

def member (item : Reader Value) : Reader (String × Value) := afterBlanks fun text => do
  let (name, rest) ← key text
  let (value, rest') ← item rest.val
  return ((name, value), rest'.ofLe (Nat.le_of_lt rest.property))

/-- The members of an object from the next one up to and with the closing brace, added to those
before. -/
def members (item : Reader Value) (before : List (String × Value)) (text : List Char) :
    Except Failure (List (String × Value) × Rest text) :=
  match member item text with
  | .error failure => .error failure
  | .ok ((name, value), rest) =>
    match h : skipBlanks rest.val with
    | [] => .error (.within [] .endInObject)
    | '\x7d' :: more =>
      .ok (put before name value, ⟨more, by
        have := rest.property
        have := length_skipBlanks_le rest.val
        simp [h] at this
        omega⟩)
    | ',' :: more =>
      have shorter : more.length < text.length := by
        have := rest.property
        have := length_skipBlanks_le rest.val
        simp [h] at this
        omega
      match skipBlanks more with
      | [] => .error (.within [] .endInValue)
      | '\x7d' :: after => .error (.within ('\x7d' :: after) .trailingComma)
      | _ =>
        (members item (put before name value) more).map fun (all, end_) =>
          (all, end_.ofLe (Nat.le_of_lt shorter))
    | other => .error (.within other .expectedObjectEnd)
termination_by text.length

/-- An array after its opening bracket. -/
def array (item : Reader Value) : Reader Value := afterBlanks fun
  | [] => .error (.within [] .endInList)
  | ']' :: rest => .ok (.array [], ⟨rest, by simp⟩)
  | text => (elements item text).map fun (values, rest) => (.array values, rest)

/-- An object after its opening brace. -/
def object (item : Reader Value) : Reader Value := afterBlanks fun
  | [] => .error (.within [] .endInObject)
  | '\x7d' :: rest => .ok (.object [], ⟨rest, by simp⟩)
  | text => (members item [] text).map fun (all, rest) => (.object all, rest)

/-- A value whose parts are read by `inner?`. Without one, the value may not have parts. -/
def valueWith (inner? : Option (Reader Value)) : Reader Value := afterBlanks fun
  | [] => .error (.within [] .endInValue)
  | 'n' :: rest => (spelled ['u', 'l', 'l'] rest).map fun r =>
      (.null, ⟨r.val, Nat.lt_succ_of_le r.property⟩)
  | 't' :: rest => (spelled ['r', 'u', 'e'] rest).map fun r =>
      (.bool true, ⟨r.val, Nat.lt_succ_of_le r.property⟩)
  | 'f' :: rest => (spelled ['a', 'l', 's', 'e'] rest).map fun r =>
      (.bool false, ⟨r.val, Nat.lt_succ_of_le r.property⟩)
  | '"' :: rest => (string rest).map fun (s, r) => (.string s, r.ofLe (by simp))
  | '-' :: rest => (number true rest).map fun (n, r) => (.number n, r.ofLe (by simp))
  | '[' :: rest =>
    match inner? with
    | some item => (array item rest).map fun (value, r) => (value, r.ofLe (by simp))
    | none => .error (.within ('[' :: rest) .tooDeep)
  | '\x7b' :: rest =>
    match inner? with
    | some item => (object item rest).map fun (value, r) => (value, r.ofLe (by simp))
    | none => .error (.within ('\x7b' :: rest) .tooDeep)
  | text =>
    if text.head?.any Char.isDigit then (number false text).map fun (n, r) => (.number n, r)
    else .error (.within text .expectedValue)

/-- A value with at most `depth` arrays and objects inside each other. -/
def value : (depth : Nat) → Reader Value
  | 0 => valueWith none
  | depth + 1 => valueWith (some (value depth))

def deepestNesting : Nat := 127

/-- The value that a whole text stands for. -/
def parse (text : String) : Except ParseError Value :=
  let located (failure : Failure) := failure.locate text.toList
  match value deepestNesting text.toList with
  | .error failure => .error (located failure)
  | .ok (result, rest) =>
    match skipBlanks rest.val with
    | [] => .ok result
    | other => .error (located (.within other .trailingText))

end PeriphMap.Json
