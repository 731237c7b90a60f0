/-
  ArgProcessor/Report/Check.lean
  ==============================
  **The report on an argument list.**

  It lists every argument with its type and checks, and warns of three things: a row that
  replaced an earlier one, a type that is not known, and file system checks on an argument that
  is neither a file nor a path.  Replacements come first, in the order of the rows; then each
  argument has its own warnings, in the order of declaration.
-/
import ArgProcessor.ArgumentList.Basic
import ArgProcessor.ProcessorClass.Language
import ArgProcessor.Report.Item
import ArgProcessor.Report.Json

namespace ArgProcessor

/-- Something about an argument list that is allowed and may be a mistake. -/
inductive Warning where
  | replaced (o : Override)
  | unknownType (name token : String)
  | idleFilesystemChecks (name token : String)
deriving DecidableEq, Repr

def Warning.message : Warning → String
  | .replaced o =>
    s!"argument '{o.name}' on line {o.line} replaces the one declared on line {o.firstLine}"
  | .unknownType name token =>
    s!"argument '{name}' has unknown type '{token}', falling back to {Kind.other.typeName}"
  | .idleFilesystemChecks name token =>
    s!"argument '{name}' requests filesystem checks but has type '{token}'"

def Argument.warnings (a : Argument) : List Warning :=
  (if a.kind.isFallback then [.unknownType a.name a.typeToken] else []) ++
    (if a.wantsFilesystem && !a.kind.isFilesystem then
      [.idleFilesystemChecks a.name a.typeToken] else [])

/-- What the report says about one argument. -/
structure ArgumentInfo where
  name : String
  typeToken : String
  typeName : String
  checks : List String
deriving DecidableEq, Repr

def Argument.info (a : Argument) : ArgumentInfo :=
  ⟨a.name, a.typeToken, (Kind.ofToken a.typeToken).typeName, a.checks.map Check.label⟩

/-- The report on the argument list at a path. -/
structure CheckReport where
  path : String
  arguments : List ArgumentInfo
  warnings : List Warning
deriving DecidableEq, Repr

def ArgumentList.check (s : ArgumentList) (path : String) : CheckReport :=
  ⟨path, s.arguments.map Argument.info,
    s.overrides.map .replaced ++ s.arguments.flatMap Argument.warnings⟩

/-! ### Showing the report -/

/-- The line of an argument: its name, type and checks. -/
def ArgumentInfo.text (i : ArgumentInfo) : String :=
  i.name ++ ": " ++ i.typeToken ++ " -> " ++ i.typeName ++
    (if i.checks.isEmpty then "" else " [" ++ ", ".intercalate i.checks ++ "]")

namespace CheckReport

def items (r : CheckReport) : List ReportItem :=
  r.warnings.map (fun w => .warning w.message) ++
    (if r.warnings.isEmpty then [] else [.newline]) ++
    [.success (r.path ++ " is valid"), .newline, .heading (countArguments r.arguments.length)] ++
    r.arguments.map (fun i => .listItem i.text)

def json (r : CheckReport) : Json :=
  .object [
    ("path", .text r.path),
    ("arguments", .array (r.arguments.map fun i =>
      .object [
        ("name", .text i.name),
        ("type", .text i.typeToken),
        ("java_type", .text i.typeName),
        ("checks", .array (i.checks.map .text))])),
    ("warnings", .array (r.warnings.map fun w => .text w.message))]

def prettyJson (r : CheckReport) : String := r.json.pretty 0

end CheckReport

end ArgProcessor
