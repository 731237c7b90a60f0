/-
  ArgProcessor/CommandLine/Help.lean
  ==================================
  **The help texts of the program and of its commands.**
-/
import ArgProcessor.CommandLine.Grammar
import ArgProcessor.Text.Lines

namespace ArgProcessor

/-- What help can be shown on. -/
inductive HelpTopic where
  | program
  | generate
  | check
  | completions
  | help
deriving DecidableEq, Repr

def HelpTopic.text : HelpTopic → String
  | .program =>
    unlines [
      "Generate argument-processor classes from a CSV argument list",
      "",
      "Usage: argsmith [OPTIONS] <COMMAND>",
      "",
      "Commands:",
      "  generate     Generate the argument-processor class",
      "  check        Validate an argument list without generating code",
      "  completions  Generate shell completions",
      "  help         Print this message or the help of the given subcommand(s)",
      "",
      "Options:",
      "  -v, --verbose  Enable debug logging",
      "  -h, --help     Print help",
      "  -V, --version  Print version"]
  | .generate =>
    unlines [
      "Generate the argument-processor class",
      "",
      "Usage: argsmith generate [OPTIONS] --argument-list <PATH> --class-file <PATH> " ++
        "--class-language <LANGUAGE> --argument-value-separator <SEPARATOR>",
      "",
      "Options:",
      "      --argument-list <PATH>",
      "          Path to the argument list (CSV with a header row)",
      "  -v, --verbose",
      "          Enable debug logging",
      "      --class-file <PATH>",
      "          Path of the generated class file",
      "      --class-language <LANGUAGE>",
      "          Target language tag (e.g. java)",
      "      --argument-value-separator <SEPARATOR>",
      "          Literal separating an argument key from its value (e.g. =)",
      "      --class-name <NAME>",
      "          Name of the generated class [default: CmdArgProcessor]",
      "      --dry-run",
      "          Print the generated class without writing it",
      "  -q, --quiet",
      "          Do not echo the generated class to stdout",
      "  -h, --help",
      "          Print help"]
  | .check =>
    unlines [
      "Validate an argument list without generating code",
      "",
      "Usage: argsmith check [OPTIONS] --argument-list <PATH>",
      "",
      "Options:",
      "      --argument-list <PATH>  Path to the argument list (CSV with a header row)",
      "  -v, --verbose               Enable debug logging",
      "      --json                  Print the parsed argument list as JSON",
      "  -h, --help                  Print help"]
  | .completions =>
    unlines [
      "Generate shell completions",
      "",
      "Usage: argsmith completions [OPTIONS] <SHELL>",
      "",
      "Arguments:",
      "  <SHELL>  Shell to generate completions for " ++
        "[possible values: bash, elvish, fish, powershell, zsh]",
      "",
      "Options:",
      "  -v, --verbose  Enable debug logging",
      "  -h, --help     Print help"]
  | .help =>
    unlines [
      "Print this message or the help of the given subcommand(s)",
      "",
      "Usage: argsmith help [COMMAND]...",
      "",
      "Arguments:",
      "  [COMMAND]...  Print help for the subcommand(s)"]

def HelpTopic.ofCommand? : String → Option HelpTopic
  | "generate" => some .generate
  | "check" => some .check
  | "completions" => some .completions
  | "help" => some .help
  | _ => none

end ArgProcessor
