/-
  ArgProcessor/Command/Host.lean
  ==============================
  **What a command asks of the machine it runs on.**

  Commands are written for any monad with the five actions of a host, so that the same command
  runs on the real machine, on a tree of files held in memory, and on a machine that only takes
  down what is asked of it.
-/
import ArgProcessor.Log.Filter
import ArgProcessor.Storage.FileTree

namespace ArgProcessor

/-- The actions of a machine. -/
structure Host (m : Type → Type) where
  /-- Reads the text of the file at a path. -/
  readText : String → m (Except AccessError String)
  /-- Writes a text to a path and makes the directories above it. -/
  writeText : String → String → m (Except AccessError Unit)
  /-- Shows a text on the output. -/
  print : String → m Unit
  /-- Shows a text on the error stream. -/
  printError : String → m Unit
  /-- Takes note of an event. -/
  log : LogEvent → m Unit

/-- The host that logs only what a filter lets through. -/
def Host.filtered {m : Type → Type} [Monad m] (h : Host m) (f : LogFilter) : Host m :=
  { h with log := fun e => if f.enables e then h.log e else pure () }

/-! ### A machine held in memory -/

/-- A tree of files and what has been shown so far. -/
structure Machine where
  files : FileTree
  output : String := ""
  errorOutput : String := ""

/-- The actions on a machine held in memory. -/
def Machine.host : Host (StateM Machine) where
  readText path := do return (← get).files.readText path
  writeText path content := modifyGet fun s =>
    let (files, outcome) := s.files.writeText path content
    (outcome, { s with files })
  print text := modify fun s => { s with output := s.output ++ text }
  printError text := modify fun s => { s with errorOutput := s.errorOutput ++ text }
  log e := modify fun s => { s with errorOutput := s.errorOutput ++ e.line }

end ArgProcessor
