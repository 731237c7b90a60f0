/-
  ArgProcessor/Text/Terminal.lean
  ===============================
  **Texts without terminal control.**

  A terminal takes some of the characters sent to it as commands: single control characters, and
  sequences that start with an escape.  `plainText` keeps what a terminal shows: every character
  that is neither, and the tabs and line ends.  A sequence ends where its own grammar says, at the
  next escape, or where it is cancelled; a tab or line end inside one interrupts it.
-/

namespace ArgProcessor

/-- Where a terminal stands in what is sent to it. -/
inductive TerminalState where
  /-- In text that is shown. -/
  | text
  /-- After an escape. -/
  | escape
  /-- After an escape and the middle of its sequence. -/
  | escapeMiddle
  /-- In a control sequence, up to its final character. -/
  | sequence
  /-- In a command to the system, up to a bell. -/
  | command
  /-- At the head of a string for the device. -/
  | deviceStart
  | deviceParameters
  | deviceMiddle
  /-- In a string, up to its terminator. -/
  | string
deriving DecidableEq, Repr

/-- Whether a character moves on to another place without being a command. -/
def isLayout (c : Char) : Bool := c == '\t' || c == '\n' || c == '\x0c' || c == '\r'

/-- Whether the UTF-8 form of a character holds the byte that ends a string. -/
def holdsTerminator (c : Char) : Bool := (String.utf8EncodeChar c).contains 0x9C

namespace TerminalState

/-- Whether the next character is shown. -/
def shows (s : TerminalState) (c : Char) : Bool :=
  match s with
  | text => isLayout c || (' ' ≤ c && c != '\x7f')
  | escape | escapeMiddle | sequence => isLayout c
  | _ => false

/-- The state after a character that is not shown. -/
def next (s : TerminalState) (c : Char) : TerminalState :=
  if c == '\x18' || c == '\x1a' then text
  else if c == '\x1b' then escape
  else
    match s with
    | text => text
    | escape =>
      if ' ' ≤ c && c ≤ '/' then escapeMiddle
      else if c == '[' then sequence
      else if c == ']' then command
      else if c == 'P' then deviceStart
      else if c == 'X' || c == '^' || c == '_' then string
      else if '0' ≤ c && c ≤ '~' then text
      else escape
    | escapeMiddle => if '0' ≤ c && c ≤ '~' then text else escapeMiddle
    | sequence => if '@' ≤ c && c ≤ '~' then text else sequence
    | command => if c == '\x07' then text else command
    | deviceStart =>
      if ' ' ≤ c && c ≤ '/' then deviceMiddle
      else if '0' ≤ c && c ≤ '?' then deviceParameters
      else if '@' ≤ c && c ≤ '~' then string
      else deviceStart
    | deviceParameters =>
      if ' ' ≤ c && c ≤ '/' then deviceMiddle
      else if '<' ≤ c && c ≤ '~' then string
      else deviceParameters
    | deviceMiddle => if '0' ≤ c && c ≤ '~' then string else deviceMiddle
    | string => if holdsTerminator c then text else string

/-- The characters that are shown of those sent in a state.  A tab or line end inside a sequence
    shows it and what follows as text (`asText`), until a control character resumes the sequence
    or a character beyond ASCII ends it. -/
def shown (asText : Bool) (s : TerminalState) : List Char → List Char
  | [] => []
  | c :: cs =>
    if (if asText then text else s).shows c then
      c :: shown true (if c.toNat < 128 then s else text) cs
    else shown false (s.next c) cs

end TerminalState

def plainText (t : String) : String := String.ofList (TerminalState.text.shown false t.toList)

end ArgProcessor
