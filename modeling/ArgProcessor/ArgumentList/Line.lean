/-
  ArgProcessor/ArgumentList/Line.lean
  ===================================
  **The lines of a text, each with its place.**

  Lines are the pieces between line feeds, without one carriage return at their end.  A line
  knows its number, counted from 1, and the byte at which it starts in the UTF-8 form of the
  text: the bytes of all earlier pieces, returns included, and one for each line feed.
-/
import ArgProcessor.Text.Bytes
import ArgProcessor.Unicode.Blank

namespace ArgProcessor

/-- A piece without one carriage return at its end. -/
def dropReturn : List Char → List Char
  | [] => []
  | ['\r'] => []
  | c :: cs => c :: dropReturn cs

/-- A line of a text: its number, the byte at which it starts, and its characters. -/
structure Line where
  number : Nat
  offset : Nat
  text : List Char
deriving DecidableEq, Repr

namespace Line

def isBlank (l : Line) : Bool := l.text.all Unicode.isBlank

/-- Numbers the pieces from `number` on, the first of them starting at the byte `offset`. -/
def locate (number offset : Nat) : List (List Char) → List Line
  | [] => []
  | piece :: rest =>
    ⟨number, offset, dropReturn piece⟩ ::
      locate (number + 1) (offset + utf8Length piece + 1) rest

def ofText (text : List Char) : List Line := locate 1 0 (text.splitOn '\n')

end Line

end ArgProcessor
