/-
  ArgProcessor/Report/Generate.lean
  =================================
  **The report on a generated class**: the text of the class, unless it is to be left out, and
  one line that says where the class went.
-/
import ArgProcessor.Report.Item

namespace ArgProcessor

/-- A generated class and the path it belongs to. -/
structure ClassFile where
  path : String
  content : String
deriving DecidableEq, Repr

/-- The report on a generated class. -/
structure GenerateReport where
  file : ClassFile
  arguments : Nat
  written : Bool
  echo : Bool := true
deriving DecidableEq, Repr

def GenerateReport.items (r : GenerateReport) : List ReportItem :=
  (if r.echo then [.divider r.file.path, .raw r.file.content, .newline] else []) ++
    [if r.written then
      .success s!"Generated {r.file.path} ({countArguments r.arguments})"
    else
      .info s!"Dry run: {r.file.path} not written ({countArguments r.arguments})"]

end ArgProcessor
