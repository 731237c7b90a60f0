/-
  ArgProcessor/Command/Generate.lean
  ==================================
  **Generating a class**: to look at it (`preview`), to a file (`generate`), and with a report
  (`generateReport`).

  Nothing is written unless the whole text of the class exists, and nothing is reported unless
  the text was written or was not to be written.
-/
import ArgProcessor.ArgumentList.Reading
import ArgProcessor.Command.Host
import ArgProcessor.ProcessorClass.Basic
import ArgProcessor.Report.Generate

namespace ArgProcessor

/-- Why no class was generated. -/
inductive GenerateError where
  | invalid (cause : ClassError)
  | unwritten (path : String) (cause : AccessError)
  /-- The failure of a run that was to write the class. -/
  | failed (cause : GenerateError)
deriving DecidableEq, Repr

namespace GenerateError

/-- The messages of an error, the outermost first and the root cause last. -/
def chain : GenerateError → List String
  | .invalid cause => cause.chain
  | .unwritten path cause => [s!"failed to write '{path}'", cause.message]
  | .failed cause => "Failed to generate code" :: cause.chain

/-- The name error at the root of the failure, if it is one. -/
def nameError? : GenerateError → Option NameError
  | .invalid (.unnamedArgument _ cause) => some cause
  | .failed cause => cause.nameError?
  | _ => none

end GenerateError

/-! ### Reading from a file -/

variable {m : Type → Type} [Monad m]

def ArgumentList.load (h : Host m) (path : String) : m (Except ReadError ArgumentList) := do
  match ← h.readText path with
  | .error cause => return .error (.unreadable path cause)
  | .ok content => return (ArgumentList.read content path).mapError .malformedRow

/-! ### Generating -/

def ClassFile.write (h : Host m) (f : ClassFile) : m (Except GenerateError Unit) := do
  match ← h.writeText f.path f.content with
  | .error cause => return .error (.unwritten f.path cause)
  | .ok () => return .ok ()

namespace ArgumentList

/-- The class for an argument list, with its path, and nothing else done. -/
def preview (s : ArgumentList) (o : ClassOptions) (path : String) : Except ClassError ClassFile :=
  (s.classText o).map fun content => ⟨path, content⟩

/-- The events of generating the text of a class. -/
def renderEvents (s : ArgumentList) (o : ClassOptions) : List LogEvent :=
  (if isKnownLanguage o.language then [] else [.unknownLanguage o.language]) ++
    [.classRendered o.className s.size o.separator]

/-- Generates the text of a class and takes note of it. -/
def render (h : Host m) (s : ArgumentList) (o : ClassOptions) (path : String) :
    m (Except GenerateError ClassFile) := do
  match s.preview o path with
  | .error cause => return .error (.invalid cause)
  | .ok file =>
    (s.renderEvents o).forM h.log
    return .ok file

/-- Generates a class and writes it to its path. -/
def generate (h : Host m) (s : ArgumentList) (o : ClassOptions) (path : String) :
    m (Except GenerateError ClassFile) := do
  match ← s.render h o path with
  | .error e => return .error e
  | .ok file =>
    match ← file.write h with
    | .error e => return .error e
    | .ok () =>
      h.log (.classWritten path)
      return .ok file

/-- Generates a class, writes it unless the run is dry, and reports. -/
def generateReport (h : Host m) (s : ArgumentList) (o : ClassOptions) (path : String)
    (dryRun : Bool) : m (Except GenerateError GenerateReport) := do
  let outcome ←
    if dryRun then s.render h o path
    else Except.mapError .failed <$> s.generate h o path
  return outcome.map fun file =>
    { file, arguments := s.size, written := !dryRun }

end ArgumentList

end ArgProcessor
