/-
  ArgProcessor/ArgumentList/ReadError.lean
  ========================================
  **Why an argument list could not be read**: a row at fault, with its place in the source, or a
  file that could not be opened.  Each has a message, a code and a hint.
-/
import ArgProcessor.ArgumentList.Row
import ArgProcessor.Storage.AccessError

namespace ArgProcessor

/-- A text and the name under which it is reported. -/
structure SourceText where
  name : String
  text : String
deriving DecidableEq, Repr

/-- A stretch of the UTF-8 form of a text. -/
structure Span where
  offset : Nat
  length : Nat
deriving DecidableEq, Repr

/-- A row at fault: its line, its characters and its place in the source. -/
structure MalformedRow where
  source : SourceText
  span : Span
  line : Nat
  row : String
  fault : RowFault
deriving DecidableEq, Repr

/-- The fault of a line of a source. -/
def MalformedRow.ofLine (source : SourceText) (l : Line) (fault : RowFault) : MalformedRow :=
  ⟨source, ⟨l.offset, utf8Length l.text⟩, l.number, String.ofList l.text, fault⟩

/-- Why an argument list could not be read. -/
inductive ReadError where
  | malformedRow (error : MalformedRow)
  | unreadable (path : String) (cause : AccessError)
deriving DecidableEq, Repr

namespace ReadError

def message : ReadError → String
  | .malformedRow e => s!"malformed row at line {e.line}: {e.fault.reason}"
  | .unreadable path _ => s!"failed to read '{path}'"

/-- The code under which the error is listed. -/
def code : ReadError → String
  | .malformedRow _ => "argsmith::malformed_row"
  | .unreadable _ _ => "argsmith::io"

/-- What to do about the error. -/
def help : ReadError → String
  | .malformedRow _ =>
    "each row needs exactly six columns: name, type, isMandatory, checkExisting, " ++
      "checkReadAccess, checkWriteAccess"
  | .unreadable _ _ => "pass the argument list with --argument-list <path>"

/-- The stretches of the source that the error points at, each with a remark. -/
def labels : ReadError → Option (List (Span × String))
  | .malformedRow e => some [(e.span, e.fault.reason)]
  | .unreadable _ _ => none

end ReadError

end ArgProcessor
