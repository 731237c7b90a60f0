/-
  ArgProcessor/Main.lean
  ======================
  **The command line program**, on the machine it is started on.

  `startProgram` is the whole program but for the library that writes completion scripts.
-/
import ArgProcessor.Command.Run

namespace ArgProcessor

/-- The cause that an error of the system stands for. -/
def AccessError.ofSystem : IO.Error → AccessError
  | .noFileOrDirectory .. => .notFound
  | .alreadyExists .. => .alreadyExists
  | .inappropriateType _ code _ => if code = 21 then .isDirectory else .notDirectory
  | e => .other (toString e)

/-- Runs an action, with its error as a result. -/
def catchAccess {α : Type} (action : IO α) : IO (Except AccessError α) := do
  try return .ok (← action)
  catch e => return .error (.ofSystem e)

/-- The machine that the program is started on. -/
def systemHost : Host IO where
  readText path := do
    match ← catchAccess (IO.FS.readBinFile path) with
    | .error e => return .error e
    | .ok bytes =>
      match String.fromUTF8? bytes with
      | some text => return .ok text
      | none => return .error .notText
  writeText path content := catchAccess do
    match (directoriesAbove path).getLast? with
    | some directory => IO.FS.createDirAll directory
    | none => pure ()
    IO.FS.writeFile path content
  print text := do (← IO.getStdout).putStr text
  printError text := do (← IO.getStderr).putStr text
  log e := do (← IO.getStderr).putStr e.line

/-- What is shown for a failure. -/
def RunFailure.text : RunFailure → String
  | .usage e => "error: " ++ e.message ++ "\n"
  | .nothingAsked => HelpTopic.program.text
  | .unreadList e => e.code ++ ": " ++ e.message ++ "\nhelp: " ++ e.help ++ "\n"
  | .notGenerated e => "Error: " ++ "\nCaused by: ".intercalate e.chain ++ "\n"

/-- Runs the program and ends with the status of the run. -/
def startProgram (completion : CompletionWriter) (args : List String) : IO UInt32 := do
  match ← runProgram systemHost completion (← IO.getEnv "RUST_LOG") args with
  | .ok () => return 0
  | .error failure =>
    systemHost.printError failure.text
    return failureStatus.toUInt32

end ArgProcessor
