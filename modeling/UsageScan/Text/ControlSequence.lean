/-!
# Control sequences

A terminal does not show every character: control characters and the sequences that the escape
character opens tell it what to do. A message that is written elsewhere is written without them. Of
the control characters only those that lay out a text are kept.

A sequence ends at its final character, or where the next one begins. A character of layout inside a
sequence is kept, and so is what follows it up to the next control character, behind which the
sequence goes on.

## Main definitions

* `ControlState` — where in a control sequence a text stands
* `Text.withoutControls` — a text without control characters and control sequences
-/

set_option autoImplicit false

namespace UsageScan.Text

/-- Where in a control sequence a text stands. -/
inductive ControlState where
  /-- Outside of every sequence. -/
  | ground
  /-- Right behind the escape character. -/
  | escape
  /-- Before the final character of a sequence without parameters. -/
  | intermediate
  /-- Among the parameters of a sequence. -/
  | parameters
  /-- Before the string that is sent to a device. -/
  | deviceHeader
  /-- In a string that is not for the text. -/
  | string
  /-- In a command to the system that the terminal belongs to. -/
  | systemCommand
deriving DecidableEq, Repr

/-- Whether a control character lays out a text. -/
def isLayout (c : Char) : Bool :=
  c == '\t' || c == '\n' || c == '\x0c' || c == '\r'

/-- Whether a character is no control character, or one that lays out a text. -/
def isVisible (c : Char) : Bool :=
  isLayout c || (' ' ≤ c && c ≠ '\x7f')

namespace ControlState

/-- Whether a character of layout is obeyed here in spite of the sequence. -/
def obeysLayout : ControlState → Bool
  | ground | escape | intermediate | parameters => true
  | deviceHeader | string | systemCommand => false

/-- The state behind a character that opens no new sequence. -/
def next (state : ControlState) (c : Char) : ControlState :=
  match state with
  | ground => ground
  | escape =>
    match c with
    | '[' => parameters
    | ']' => systemCommand
    | 'P' => deviceHeader
    | 'X' | '^' | '_' => string
    | c =>
      if ' ' ≤ c && c ≤ '/' then intermediate
      else if '0' ≤ c && c ≤ '~' then ground
      else escape
  | intermediate => if '0' ≤ c && c ≤ '~' then ground else intermediate
  | parameters => if '@' ≤ c && c ≤ '~' then ground else parameters
  | deviceHeader => if '@' ≤ c && c ≤ '~' then string else deviceHeader
  | string => if c.toString.toUTF8.data.contains 0x9C then ground else string
  | systemCommand => if c = '\x07' then ground else systemCommand

end ControlState

/-- How far a text has been read for control sequences. -/
structure ControlReading where
  state : ControlState
  /-- Whether the sequence is suspended by a character of layout. -/
  suspended : Bool
deriving DecidableEq, Repr

namespace ControlReading

/-- The reading outside of every sequence. -/
def start : ControlReading :=
  ⟨.ground, false⟩

/-- Whether a character belongs to the text and not to a sequence. -/
def keeps (r : ControlReading) (c : Char) : Bool :=
  isVisible c && (r.state == .ground || r.suspended || (isLayout c && r.state.obeysLayout))

/-- The reading behind a character. The escape character opens a sequence anywhere, two control
characters close any, and a character beyond ASCII closes one that is suspended. -/
def advance (r : ControlReading) (c : Char) : ControlReading :=
  if c = '\x1b' then ⟨.escape, false⟩
  else if c = '\x18' || c = '\x1a' then start
  else if r.keeps c then ⟨if c.toNat < 0x80 then r.state else .ground, true⟩
  else ⟨r.state.next c, false⟩

/-- The characters of the rest of a text that belong to it. -/
def kept (r : ControlReading) : List Char → List Char
  | [] => []
  | c :: cs => if r.keeps c then c :: (r.advance c).kept cs else (r.advance c).kept cs

end ControlReading

/-- A text without control characters and control sequences. -/
def withoutControls (s : String) : String :=
  .ofList (ControlReading.start.kept s.toList)

end UsageScan.Text
