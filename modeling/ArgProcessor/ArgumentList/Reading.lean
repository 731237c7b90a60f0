/-
  ArgProcessor/ArgumentList/Reading.lean
  ======================================
  **Reading an argument list.**

  The first line is a header and is not looked at.  Every other line is blank or a row; the first
  row at fault ends the reading (`read`).  The rows are then declared one after the other, and a
  row whose name an earlier row has declared is recorded with the line of the first such row
  (`overridesOf`).
-/
import ArgProcessor.ArgumentList.Basic
import ArgProcessor.ArgumentList.ReadError

namespace ArgProcessor

/-- The overrides among rows, given the first declarations of the names seen before. -/
def overridesAfter (firsts : List Row) : List Row → List Override
  | [] => []
  | r :: rest =>
    match firsts.find? (·.argument.name == r.argument.name) with
    | some first => ⟨r.argument.name, first.line, r.line⟩ :: overridesAfter firsts rest
    | none => overridesAfter (firsts ++ [r]) rest

/-- The rows that declare a name again, in order. -/
def overridesOf (rows : List Row) : List Override := overridesAfter [] rows

namespace ArgumentList

/-- The argument list that rows declare. -/
def ofRows (rows : List Row) : ArgumentList :=
  { ofArguments (rows.map (·.argument)) with overrides := overridesOf rows }

/-- The name of a source that has no file name of its own. -/
def defaultSourceName : String := "arguments.csv"

def read (content : String) (name : String := defaultSourceName) :
    Except MalformedRow ArgumentList :=
  match rowsOfLines (Line.ofText content.toList).tail with
  | .ok rows => .ok (ofRows rows)
  | .error (l, fault) => .error (.ofLine ⟨name, content⟩ l fault)

end ArgumentList

end ArgProcessor
