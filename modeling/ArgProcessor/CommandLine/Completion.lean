/-
  ArgProcessor/CommandLine/Completion.lean
  ========================================
  **Shells that can complete command lines.**

  The script that teaches a shell the commands of a program is the work of a library, which makes
  it from the rules of the program.  What stands in the script is up to the library, so it is a
  parameter of the program (`CompletionWriter`).
-/
import ArgProcessor.CommandLine.Grammar

namespace ArgProcessor

inductive Shell where
  | bash
  | elvish
  | fish
  | powershell
  | zsh
deriving DecidableEq, Repr

def Shell.ofName? : String → Option Shell
  | "bash" => some .bash
  | "elvish" => some .elvish
  | "fish" => some .fish
  | "powershell" => some .powershell
  | "zsh" => some .zsh
  | _ => none

/-- Writes the script with which a shell completes the command lines of a program, given the rule
    of the program and those of its commands. -/
abbrev CompletionWriter := Shell → CommandRule → List CommandRule → String

end ArgProcessor
