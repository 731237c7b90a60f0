/-
  ArgProcessor/CommandLine/Grammar.lean
  =====================================
  **What a command line may hold**: the options of each command, the values that they take, and
  operands.  The tables at the end are the commands of this program.
-/

namespace ArgProcessor

/-- The value that an option takes. -/
structure ValueRule where
  /-- The word that stands for the value in messages. -/
  name : String
  /-- Whether the empty text is a value. -/
  mayBeEmpty : Bool := true
  /-- Whether the next word is the value even if it looks like an option. -/
  mayLookLikeOption : Bool := false
deriving DecidableEq, Repr

/-- What meeting an option does. -/
inductive OptionEffect where
  | keep
  | help
  | version
deriving DecidableEq, Repr

/-- An option, written as two dashes and its long name, or as one dash and its letter. -/
structure OptionRule where
  long : String
  letter : Option Char := none
  value : Option ValueRule := none
  required : Bool := false
  effect : OptionEffect := .keep
  about : String
deriving DecidableEq, Repr

/-- The option as messages name it. -/
def OptionRule.label (o : OptionRule) : String :=
  "--" ++ o.long ++ (match o.value with | some v => " <" ++ v.name ++ ">" | none => "")

/-- A word without dashes that a command takes, out of a list of choices. -/
structure OperandRule where
  name : String
  choices : List String
deriving DecidableEq, Repr

/-- The operand as messages name it. -/
def OperandRule.label (o : OperandRule) : String := "<" ++ o.name ++ ">"

/-- What the command line of one command may hold. -/
structure CommandRule where
  name : String
  about : String
  options : List OptionRule
  operand : Option OperandRule := none
  subcommands : List String := []
deriving DecidableEq, Repr

def CommandRule.long? (c : CommandRule) (name : String) : Option OptionRule :=
  c.options.find? (·.long == name)

def CommandRule.letter? (c : CommandRule) (letter : Char) : Option OptionRule :=
  c.options.find? (·.letter == some letter)

/-! ### The commands of the program -/

def programName : String := "argsmith"

def programVersion : String := "0.1.0"

namespace Grammar

def verbose : OptionRule :=
  { long := "verbose", letter := some 'v', about := "Enable debug logging" }

def help : OptionRule :=
  { long := "help", letter := some 'h', effect := .help, about := "Print help" }

def version : OptionRule :=
  { long := "version", letter := some 'V', effect := .version, about := "Print version" }

def argumentList : OptionRule :=
  { long := "argument-list", value := some { name := "PATH", mayBeEmpty := false },
    required := true, about := "Path to the argument list (CSV with a header row)" }

/-- Where the class goes. -/
def classFile : OptionRule :=
  { long := "class-file", value := some { name := "PATH", mayBeEmpty := false },
    required := true, about := "Path of the generated class file" }

def classLanguage : OptionRule :=
  { long := "class-language", value := some { name := "LANGUAGE" },
    required := true, about := "Target language tag (e.g. java)" }

/-- The text between a key and its value.  It may look like an option. -/
def separator : OptionRule :=
  { long := "argument-value-separator",
    value := some { name := "SEPARATOR", mayBeEmpty := false, mayLookLikeOption := true },
    required := true, about := "Literal separating an argument key from its value (e.g. =)" }

def className : OptionRule :=
  { long := "class-name", value := some { name := "NAME" },
    about := "Name of the generated class" }

/-- Keeps the class from being written. -/
def dryRun : OptionRule :=
  { long := "dry-run", about := "Print the generated class without writing it" }

/-- Keeps the class from being shown. -/
def quiet : OptionRule :=
  { long := "quiet", letter := some 'q', about := "Do not echo the generated class to stdout" }

/-- Asks for the report as JSON. -/
def json : OptionRule := { long := "json", about := "Print the parsed argument list as JSON" }

def generate : CommandRule :=
  { name := "generate", about := "Generate the argument-processor class"
    options := [argumentList, verbose, classFile, classLanguage, separator, className, dryRun,
      quiet, help] }

def check : CommandRule :=
  { name := "check", about := "Validate an argument list without generating code"
    options := [argumentList, verbose, json, help] }

/-- The operand that names a shell. -/
def shell : OperandRule :=
  { name := "SHELL", choices := ["bash", "elvish", "fish", "powershell", "zsh"] }

def completions : CommandRule :=
  { name := "completions", about := "Generate shell completions"
    options := [verbose, help], operand := some shell }

/-- The commands that do something of their own. -/
def commands : List CommandRule := [generate, check, completions]

def helpName : String := "help"

def program : CommandRule :=
  { name := programName, about := "Generate argument-processor classes from a CSV argument list"
    options := [verbose, help, version]
    subcommands := commands.map (·.name) ++ [helpName] }

end Grammar

end ArgProcessor
