/-
  ArgProcessor/CommandLine/Request.lean
  =====================================
  **What a command line asks for.**

  The words of a command line are read as a request (`Request.ofWords`): to show help or the
  version, or to run a command with its settings.  A command line that holds nothing at all is
  answered with the help text, as a mistake.
-/
import ArgProcessor.CommandLine.Completion
import ArgProcessor.CommandLine.Help
import ArgProcessor.CommandLine.Scan
import ArgProcessor.ProcessorClass.Basic

namespace ArgProcessor

/-- The settings of the command that generates a class. -/
structure GenerateSettings where
  argumentList : String
  classFile : String
  options : ClassOptions
  dryRun : Bool
  quiet : Bool
deriving DecidableEq, Repr

/-- The settings of the command that looks at an argument list. -/
structure CheckSettings where
  argumentList : String
  json : Bool
deriving DecidableEq, Repr

/-- A command with its settings. -/
inductive Command where
  | generate (settings : GenerateSettings)
  | check (settings : CheckSettings)
  | completions (shell : Shell)
deriving DecidableEq, Repr

/-- What a command line asks for. -/
inductive Request where
  | showHelp (topic : HelpTopic)
  | showVersion
  | run (verbose : Bool) (command : Command)
deriving DecidableEq, Repr

/-- Why a command line asks for nothing. -/
inductive RequestError where
  | usage (error : UsageError)
  /-- The command line is empty. -/
  | nothingAsked
deriving DecidableEq, Repr

namespace ScanState

def value? (s : ScanState) (name : String) : Option String := s.found.lookup name

def has (s : ScanState) (o : OptionRule) : Bool := (s.value? o.long).isSome

/-- The value of an option, or a text that stands for it. -/
def valueOr (s : ScanState) (o : OptionRule) (default : String) : String :=
  (s.value? o.long).getD default

end ScanState

namespace Command

/-- The command that generates a class, with what was found for it. -/
def ofGenerate (s : ScanState) : Command :=
  .generate {
    argumentList := s.valueOr Grammar.argumentList ""
    classFile := s.valueOr Grammar.classFile ""
    options := {
      language := s.valueOr Grammar.classLanguage ""
      separator := s.valueOr Grammar.separator ""
      className := s.valueOr Grammar.className defaultClassName }
    dryRun := s.has Grammar.dryRun
    quiet := s.has Grammar.quiet }

/-- The command that looks at an argument list, with what was found for it. -/
def ofCheck (s : ScanState) : Command :=
  .check { argumentList := s.valueOr Grammar.argumentList "", json := s.has Grammar.json }

/-- The command that writes a completion script, with the shell that was found. -/
def ofCompletions (s : ScanState) : Command :=
  .completions (((s.value? Grammar.shell.name).bind Shell.ofName?).getD .bash)

end Command

namespace Request

def ofCommand (verbose : Bool) (topic : HelpTopic) (rule : CommandRule)
    (command : ScanState → Command) (words : List String) : Except RequestError Request :=
  match rule.scan {} words with
  | .error (.usage e) => .error (.usage e)
  | .error .help => .ok (.showHelp topic)
  | .error .version => .ok .showVersion
  | .ok (s, _) =>
    match rule.missing s with
    | [] => .ok (.run (verbose || s.has Grammar.verbose) (command s))
    | names => .error (.usage (.missing names))

/-- Reads the words after the command that shows help: at most one command. -/
def ofHelp : List String → Except RequestError Request
  | [] => .ok (.showHelp .program)
  | word :: rest =>
    match HelpTopic.ofCommand? word, rest with
    | none, _ => .error (.usage (.unrecognizedSubcommand word))
    | some topic, [] => .ok (.showHelp topic)
    | some _, next :: _ => .error (.usage (.unrecognizedSubcommand next))

def ofWords (words : List String) : Except RequestError Request :=
  match Grammar.program.scan {} words with
  | .error (.usage e) => .error (.usage e)
  | .error .help => .ok (.showHelp .program)
  | .error .version => .ok .showVersion
  | .ok (s, none) =>
    if s.found.isEmpty then .error .nothingAsked
    else .error (.usage (.subcommandRequired programName Grammar.program.subcommands))
  | .ok (s, some (name, rest)) =>
    let verbose := s.has Grammar.verbose
    match HelpTopic.ofCommand? name with
    | some .generate => ofCommand verbose .generate Grammar.generate Command.ofGenerate rest
    | some .check => ofCommand verbose .check Grammar.check Command.ofCheck rest
    | some .completions =>
      ofCommand verbose .completions Grammar.completions Command.ofCompletions rest
    | _ => ofHelp rest

end Request

end ArgProcessor
