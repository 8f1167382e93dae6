import SyncQueue.Text.Utf8

/-!
# Control sequences

What a text shows when it goes to something that knows no control sequences. A sequence begins with
an escape character; `visible` leaves out sequences and all control characters but blanks and line
breaks. A blank inside a sequence ends it, unless the sequence carries a text of its own.
-/

namespace SyncQueue.Text.Control

/-- How far a control sequence has come. -/
inductive State where
  /-- Outside of sequences. -/
  | text
  /-- After an escape character. -/
  | escape
  /-- After an escape character and marks. -/
  | marked
  /-- After `[`: parameters up to a letter. -/
  | parameters
  /-- A command to the system, up to a bell. -/
  | command
  /-- The parameters of a device string. -/
  | header
  /-- A string, up to its terminator. -/
  | string
  deriving DecidableEq, Repr

/-- A blank or a line break of ASCII. -/
def isLayout (c : Char) : Bool := c = '\t' || c = '\n' || c = '\x0c' || c = '\r'

/-- The character ends the strings of control sequences: a byte of it is the string terminator. -/
def hasTerminator (c : Char) : Bool := (Utf8.encode [c]).contains 0x9c

/-- The state after the first character that follows an escape character, unless it is a control
character. -/
def State.opened (c : Char) : State :=
  if '\x20' ≤ c && c ≤ '\x2f' then .marked
  else
    match c with
    | '[' => .parameters
    | ']' => .command
    | 'P' => .header
    | 'X' | '^' | '_' => .string
    | c => if c < '\x7f' then .text else .escape

/-- The state after a character, and whether the character is shown. -/
def State.next (s : State) (c : Char) : State × Bool :=
  if c = '\x1b' then (.escape, false)
  else if c = '\x18' || c = '\x1a' then (.text, false)
  else
    let shownLayout (stay : State) : State × Bool :=
      if isLayout c then (.text, true) else (stay, false)
    match s with
    | .text => if c < '\x20' then shownLayout .text else (.text, c != '\x7f')
    | .escape => if c < '\x20' then shownLayout .escape else (.opened c, false)
    | .marked =>
      if c < '\x20' then shownLayout .marked
      else (if '\x30' ≤ c && c ≤ '\x7e' then .text else .marked, false)
    | .parameters =>
      if c < '\x20' then shownLayout .parameters
      else (if '\x40' ≤ c && c ≤ '\x7e' then .text else .parameters, false)
    | .command => (if c = '\x07' then .text else .command, false)
    | .header => (if '\x40' ≤ c && c ≤ '\x7e' then .string else .header, false)
    | .string => (if hasTerminator c then .text else .string, false)

/-- The characters shown from a state on. -/
def visibleFrom : State → List Char → List Char
  | _, [] => []
  | s, c :: cs =>
    let (s, shown) := s.next c
    if shown then c :: visibleFrom s cs else visibleFrom s cs

/-- The characters of a text that are shown. -/
def visible (cs : List Char) : List Char := visibleFrom .text cs

end SyncQueue.Text.Control
