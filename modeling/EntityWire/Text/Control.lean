import EntityWire.Text.Utf8

namespace EntityWire

/-- The sequence in which a text stands, by what was read of it: parameters end with a letter,
a command with a bell, the head of a device string with a letter, and the body of one, or of any
other string, with the octet `9c`. -/
inductive Control
  | none
  | escape
  | escapeMarks
  | parameters
  | command
  | deviceHead
  | deviceNumbers
  | deviceMarks
  | body
  deriving DecidableEq, Repr

namespace Control

def isBlank (c : Char) : Bool := c = '\t' || c = '\n' || c = '\x0c' || c = '\r'

def among (low high c : Char) : Bool := low ≤ c && c ≤ high

def isMark (c : Char) : Bool := among ' ' '/' c

def isFinal (c : Char) : Bool := among '@' '~' c

def endsString (c : Char) : Bool := (String.utf8EncodeChar c).contains 0x9c

def afterEscape (c : Char) : Control :=
  if isMark c then .escapeMarks
  else if c = '[' then .parameters
  else if c = ']' then .command
  else if c = 'P' then .deviceHead
  else if c = 'X' || c = '^' || c = '_' then .body
  else if among '0' '~' c then .none
  else .escape

def next (s : Control) (c : Char) : Control :=
  if c = '\x1b' then .escape
  else if c = '\x18' || c = '\x1a' then .none
  else
    match s with
    | .none => .none
    | .escape => afterEscape c
    | .escapeMarks => if among '0' '~' c then .none else .escapeMarks
    | .parameters => if isFinal c then .none else .parameters
    | .command => if c = '\x07' then .none else .command
    | .deviceHead =>
      if isMark c then .deviceMarks else if among '0' '?' c then .deviceNumbers
      else if isFinal c then .body else .deviceHead
    | .deviceNumbers =>
      if isMark c then .deviceMarks else if among '<' '~' c then .body else .deviceNumbers
    | .deviceMarks => if among '0' '~' c then .body else .deviceMarks
    | .body => if endsString c then .none else .body

def shows (s : Control) (c : Char) : Bool :=
  match s with
  | .none => isBlank c || (' ' ≤ c && c ≠ '\x7f')
  | .escape | .escapeMarks | .parameters => isBlank c
  | _ => false

/-- A sequence, and whether text passes although it was not ended. -/
structure Flow where
  sequence : Control := .none
  passes : Bool := false

def Flow.take (f : Flow) (c : Char) : Flow :=
  if f.passes && Control.none.shows c then
    { f with sequence := if c.toNat < 0x80 then f.sequence else .none }
  else ⟨f.sequence.next c, f.sequence.shows c⟩

def Flow.shown (f : Flow) : List Char → List Char
  | [] => []
  | c :: rest =>
    let f := f.take c
    if f.passes then c :: f.shown rest else f.shown rest

end Control

def shownText (s : String) : String := String.ofList (Control.Flow.shown {} s.toList)

def firstLine (s : String) : String :=
  match s.toList.span (· ≠ '\n') with
  | (line, []) => String.ofList line
  | (line, _) => String.ofList (if line.getLast? = some '\r' then line.dropLast else line)

end EntityWire
