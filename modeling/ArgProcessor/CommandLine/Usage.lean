/-
  ArgProcessor/CommandLine/Usage.lean
  ===================================
  **Mistakes on a command line**, each with its message.

  A message shows words of the command line; terminal control in them is left out.
-/
import ArgProcessor.Text.Terminal

namespace ArgProcessor

/-- A mistake on a command line. -/
inductive UsageError where
  /-- Options or operands that have to be there are not. -/
  | missing (names : List String)
  | valueRequired (name : String) (choices : List String)
  | invalidValue (value name : String) (choices : List String)
  | repeated (name : String)
  | unexpectedArgument (text : String)
  | unexpectedValue (value name : String)
  | unrecognizedSubcommand (name : String)
  | subcommandRequired (program : String) (choices : List String)
deriving DecidableEq, Repr

namespace UsageError

/-- A line with the values that would do, if they are few enough to list. -/
def choicesText (choices : List String) : String :=
  if choices.isEmpty then "" else "\n  [possible values: " ++ ", ".intercalate choices ++ "]"

def message : UsageError → String
  | .missing names =>
    "the following required arguments were not provided:" ++
      String.join (names.map fun n => "\n  " ++ n)
  | .valueRequired name choices =>
    s!"a value is required for '{name}' but none was supplied" ++ choicesText choices
  | .invalidValue value name choices =>
    s!"invalid value '{plainText value}' for '{name}'" ++ choicesText choices
  | .repeated name => s!"the argument '{name}' cannot be used multiple times"
  | .unexpectedArgument text => s!"unexpected argument '{plainText text}' found"
  | .unexpectedValue value name =>
    s!"unexpected value '{plainText value}' for '{name}' found; no more were expected"
  | .unrecognizedSubcommand name => s!"unrecognized subcommand '{plainText name}'"
  | .subcommandRequired program choices =>
    s!"'{program}' requires a subcommand but one was not provided" ++
      "\n  [subcommands: " ++ ", ".intercalate choices ++ "]"

end UsageError

end ArgProcessor
