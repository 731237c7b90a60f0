/-
  ArgProcessor/Command/Run.lean
  =============================
  **Running the program**: a command line is read and its command is run on a host.

  A run shows its report on the output only when all went well; otherwise it ends in one of four
  failures (`RunFailure`), each of which is shown in its own way.
-/
import ArgProcessor.Command.Generate
import ArgProcessor.CommandLine.Request
import ArgProcessor.Report.Check

namespace ArgProcessor

/-- How a run fails. -/
inductive RunFailure where
  | usage (error : UsageError)
  /-- Nothing was asked; the help text is the answer. -/
  | nothingAsked
  | unreadList (error : ReadError)
  | notGenerated (error : GenerateError)
deriving DecidableEq, Repr

def failureStatus : Nat := 1

variable {m : Type → Type} [Monad m]

def showItems (h : Host m) (items : List ReportItem) : m Unit := do
  h.printError (ReportItem.errorOutputAll items)
  h.print (ReportItem.outputAll items)

def GenerateSettings.run (h : Host m) (g : GenerateSettings) : m (Except RunFailure Unit) := do
  match ← ArgumentList.load h g.argumentList with
  | .error e => return .error (.unreadList e)
  | .ok s =>
    h.log (.listRead g.argumentList s.size)
    match ← s.generateReport h g.options g.classFile g.dryRun with
    | .error e => return .error (.notGenerated e)
    | .ok report =>
      showItems h { report with echo := !g.quiet }.items
      return .ok ()

def CheckSettings.run (h : Host m) (c : CheckSettings) : m (Except RunFailure Unit) := do
  match ← ArgumentList.load h c.argumentList with
  | .error e => return .error (.unreadList e)
  | .ok s =>
    let report := s.check c.argumentList
    if c.json then h.print (report.prettyJson ++ "\n") else showItems h report.items
    return .ok ()

def Command.run (h : Host m) (completion : CompletionWriter) :
    Command → m (Except RunFailure Unit)
  | .generate settings => settings.run h
  | .check settings => settings.run h
  | .completions shell => do
    h.print (completion shell Grammar.program Grammar.commands)
    return .ok ()

/-- Runs the program on the words of a command line; `logSetting` is the filter for its log, if
    one was set. -/
def runProgram (h : Host m) (completion : CompletionWriter) (logSetting : Option String)
    (words : List String) : m (Except RunFailure Unit) := do
  match Request.ofWords words with
  | .error (.usage e) => return .error (.usage e)
  | .error .nothingAsked => return .error .nothingAsked
  | .ok (.showHelp topic) =>
    h.print topic.text
    return .ok ()
  | .ok .showVersion =>
    h.print (programName ++ " " ++ programVersion ++ "\n")
    return .ok ()
  | .ok (.run verbose command) =>
    command.run (h.filtered (.ofSetting logSetting verbose)) completion

end ArgProcessor
