/-! Text for a terminal. An escape character starts a sequence that gives the terminal an order, for
instance to change a colour. Where there is no terminal, such sequences are left out together with
all other control characters that are not white space. -/

namespace PeriphMap.Text

/-- How far a sequence has come that is not over yet. -/
inductive ControlSequence where
  /-- Nothing but the escape character. -/
  | escape
  /-- Marks such as `(` after the escape character. The next letter or digit ends the sequence. -/
  | marked
  /-- Parameters after `[`. The next letter ends the sequence. -/
  | control
  /-- A command after `]`. The bell ends it. -/
  | command
  /-- The three parts of a header after `P`. A string follows it. -/
  | headerStart
  | headerParameters
  | headerMarks
  /-- A string, for a device or for nobody. -/
  | string

namespace ControlSequence

def isMark (c : Char) : Bool :=
  ' ' ≤ c && c ≤ '/'

/-- The digits, the letters, and all that stands between them. -/
def isFinal (c : Char) : Bool :=
  '0' ≤ c && c ≤ '~'

/-- The letters and all that stands between them. -/
def isLetter (c : Char) : Bool :=
  '@' ≤ c && c ≤ '~'

/-- The byte `0x9C` ends a string, also as a part of the code of a character. -/
def endsString (c : Char) : Bool :=
  (String.singleton c).toUTF8.toList.contains 0x9C

/-- What a character makes of a sequence, `none` being that it is over. -/
def next : ControlSequence → Char → Option ControlSequence
  | escape, '[' => some control
  | escape, ']' => some command
  | escape, 'P' => some headerStart
  | escape, 'X' => some string
  | escape, '^' => some string
  | escape, '_' => some string
  | escape, c => if isMark c then some marked else if isFinal c then none else some escape
  | marked, c => if isFinal c then none else some marked
  | control, c => if isLetter c then none else some control
  | command, c => if c = '\x07' then none else some command
  | headerStart, c =>
    if isMark c then some headerMarks
    else if isLetter c then some string
    else if isFinal c then some headerParameters
    else some headerStart
  | headerParameters, c =>
    if isMark c then some headerMarks
    else if '<' ≤ c && c ≤ '~' then some string
    else some headerParameters
  | headerMarks, c => if isFinal c then some string else some headerMarks
  | string, c => if endsString c then none else some string

/-- Whether white space stands out from the sequence. In a command, and from a header on, it is a
part of it. -/
def showsBreaks : ControlSequence → Bool
  | escape | marked | control => true
  | _ => false

end ControlSequence

/-- Where a text has come to. -/
inductive Passage where
  | plain
  | within (sequence : ControlSequence)
  /-- White space inside a sequence has been shown. So is what follows, until a control character
  takes the sequence up again or a character beyond ASCII ends it. -/
  | interrupted (sequence : ControlSequence)

namespace Passage

/-- Control characters that are white space. -/
def isBreak (c : Char) : Bool :=
  c = '\t' || c = '\n' || c = '\x0c' || c = '\r'

def isControl (c : Char) : Bool :=
  c < ' ' || c = '\x7f'

/-- Whether a character is shown, and where the text has come to behind it. An escape character
starts a sequence anywhere, and two others end any sequence. -/
def step (passage : Passage) (c : Char) : Bool × Passage :=
  if c = '\x1b' then (false, within .escape)
  else if c = '\x18' ∨ c = '\x1a' then (false, plain)
  else match passage with
    | plain => (isBreak c || !isControl c, plain)
    | within sequence =>
      if isBreak c ∧ sequence.showsBreaks then (true, interrupted sequence)
      else (false, ((sequence.next c).map within).getD plain)
    | interrupted sequence =>
      if '\x7f' < c then (true, plain)
      else if isBreak c || !isControl c then (true, interrupted sequence)
      else (false, within sequence)

def shown (passage : Passage) : List Char → List Char
  | [] => []
  | c :: rest =>
    match passage.step c with
    | (true, next) => c :: next.shown rest
    | (false, next) => next.shown rest

end Passage

/-- A text as it is written where there is no terminal. -/
def withoutControls (s : String) : String :=
  String.ofList (Passage.plain.shown s.toList)

end PeriphMap.Text
