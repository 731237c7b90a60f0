/-
  ArgProcessor/Pattern/Escape.lean
  ================================
  **The text of a pattern below its items**: filler, and what follows a backslash.

  In spaced text, white space and comments from a number sign to the end of the line are filler.
  A backslash gives letters a meaning and takes it from all other ASCII characters but digits; two,
  four or eight hexadecimal digits name a character.  Braces are not read, as nothing that holds
  a pattern lets one be closed.
-/
import ArgProcessor.Pattern.Basic
import ArgProcessor.Unicode.Blank

namespace ArgProcessor

/-! ### Filler -/

/-- A text from the first character on that is not filler. -/
def dropFiller (inComment : Bool) : List Char → List Char
  | [] => []
  | c :: cs =>
    if inComment then dropFiller (c != '\n') cs
    else if Unicode.isBlank c then dropFiller false cs
    else if c == '#' then dropFiller true cs
    else c :: cs

/-- A text without the filler at its start, if it is spaced. -/
def skipFiller (spaced : Bool) (cs : List Char) : List Char :=
  if spaced then dropFiller false cs else cs

/-- The character that comes next.  Of spaced text one comment sign is passed over, but not the
    comment. -/
def peekNext (spaced : Bool) (cs : List Char) : Option Char :=
  if spaced then
    match cs.dropWhile Unicode.isBlank with
    | '#' :: rest => (rest.dropWhile Unicode.isBlank).head?
    | rest => rest.head?
  else cs.head?

/-! ### Escapes -/

def hexDigitValue? (c : Char) : Option Nat :=
  if c.isDigit then some (c.toNat - '0'.toNat)
  else if 'a' ≤ c && c ≤ 'f' then some (c.toNat - 'a'.toNat + 10)
  else if 'A' ≤ c && c ≤ 'F' then some (c.toNat - 'A'.toNat + 10)
  else none

def readHexDigits (spaced : Bool) (value : Nat) : Nat → List Char → Option (Nat × List Char)
  | 0, cs => some (value, skipFiller spaced cs)
  | digits + 1, cs =>
    match skipFiller spaced cs with
    | [] => none
    | c :: rest => do readHexDigits spaced (16 * value + (← hexDigitValue? c)) digits rest

def readHexChar (spaced : Bool) (digits : Nat) (cs : List Char) :
    Option (Pattern × List Char) := do
  let (value, rest) ← readHexDigits spaced 0 digits cs
  if value.isValidChar then return (.char ⟨Char.ofNat value, digits == 2⟩, rest) else none

/-- Reads a Unicode property named by one letter. -/
def readProperty (spaced : Bool) (cs : List Char) : Option (Pattern × List Char) :=
  match skipFiller spaced cs with
  | [] => none
  | c :: rest =>
    if c == '\x7b' || c == '\\' then none else some (.property, skipFiller spaced rest)

/-- The control character that a letter stands for. -/
def controlOfLetter? : Char → Option Char
  | 'a' => some '\x07'
  | 'f' => some '\x0c'
  | 't' => some '\t'
  | 'n' => some '\n'
  | 'r' => some '\r'
  | 'v' => some '\x0b'
  | _ => none

/-- Reads what follows a backslash. -/
def readEscape (spaced : Bool) : List Char → Option (Pattern × List Char)
  | [] => none
  | c :: cs =>
    match c with
    | 'x' => readHexChar spaced 2 cs
    | 'u' => readHexChar spaced 4 cs
    | 'U' => readHexChar spaced 8 cs
    | 'p' | 'P' => readProperty spaced cs
    | 'd' | 's' | 'w' => some (.shorthand false, cs)
    | 'D' | 'S' | 'W' => some (.shorthand true, cs)
    | 'A' | 'z' => some (.edge, cs)
    | 'b' => if cs.head? == some '\x7b' then none else some (.wordEdge, cs)
    | 'B' | '<' | '>' => some (.wordEdge, cs)
    | _ =>
      match controlOfLetter? c with
      | some control => some (.char ⟨control, false⟩, cs)
      | none => if c.isAlphanum || 128 ≤ c.toNat then none else some (.char ⟨c, false⟩, cs)

/-- Reads a character of a class or what it escapes. -/
def readClassAtom (spaced : Bool) : List Char → Option (Pattern × List Char)
  | [] => none
  | '\\' :: cs => readEscape spaced cs
  | c :: cs => some (.char ⟨c, false⟩, cs)

end ArgProcessor
