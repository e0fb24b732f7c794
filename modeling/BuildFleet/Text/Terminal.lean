import BuildFleet.Text.Utf8
/-!
# What a terminal shows

Some characters steer a terminal instead of being shown: the controls other than white space, and
control sequences, which begin with an escape. `Terminal.plain` keeps what is shown.

White space among the controls breaks a sequence off, outside the strings that sequences may carry.
A sequence without an end hides all that follows it.
-/
namespace BuildFleet.Terminal

/-- Where a terminal stands in what it reads. -/
inductive Mode where
  | text
  /-- Right behind an escape. -/
  | escape
  /-- Behind an escape and intermediate characters. -/
  | intermediate
  /-- In a control sequence, before its final character. -/
  | sequence
  /-- In a command to the system around the terminal. -/
  | command
  /-- In front of a device string, which a character from `opening` on begins. -/
  | device (opening : Char)
  | string
  deriving DecidableEq, Repr

/-- The white space among the controls that a terminal may be sent. -/
def isSpacing (c : Char) : Bool := c == '\t' || c == '\n' || c == '\x0c' || c == '\r'

def isControl (c : Char) : Bool := (c < ' ' && !isSpacing c) || c == '\x7f'

/-- A string ends at the byte that ends strings, even where it is part of a longer character. -/
def endsString (c : Char) : Bool := (Utf8.encode (String.singleton c)).contains 0x9C

namespace Mode

/-- What a character behind an escape begins. -/
def ofIntroducer (c : Char) : Mode :=
  if c == '[' then sequence
  else if c == ']' then command
  else if c == 'P' then device '@'
  else if c == 'X' || c == '^' || c == '_' then string
  else if ' ' ≤ c && c < '0' then intermediate
  else if ('0' ≤ c && c ≤ '~') || isSpacing c then text
  else escape

/-- Where a character leads. In front of a device string come its parameters, of which a private one
may stand first only, and then intermediate characters. -/
def next (m : Mode) (c : Char) : Mode :=
  if c == '\x1b' then escape
  else if c == '\x18' || c == '\x1a' then text
  else match m with
    | text => text
    | escape => ofIntroducer c
    | intermediate => if ('0' ≤ c && c ≤ '~') || isSpacing c then text else intermediate
    | sequence => if ('@' ≤ c && c ≤ '~') || isSpacing c then text else sequence
    | command => if c == '\x07' then text else command
    | device opening =>
      if c < ' ' || '~' < c then device opening
      else if opening ≤ c then string
      else if c < '0' then device '0'
      else device '<'
    | string => if endsString c then text else string

def shows : Mode → Char → Bool
  | text, c => !isControl c
  | escape, c | intermediate, c | sequence, c => isSpacing c
  | command, _ | device _, _ | string, _ => false

/-- The characters that are shown of those to come. -/
def shown (m : Mode) : List Char → List Char
  | [] => []
  | c :: rest => if m.shows c then c :: (m.next c).shown rest else (m.next c).shown rest

end Mode

/-- What a terminal shows of a text. -/
def plain (s : String) : String := String.ofList (Mode.text.shown s.toList)

end BuildFleet.Terminal
