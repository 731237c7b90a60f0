/-
  ArgProcessor/Log/Event.lean
  ===========================
  **What the program logs**: four events, each with a level, the part of the program that it
  comes from, a message and fields (`LogEvent.line`).
-/
import ArgProcessor.Text.Hexadecimal
import ArgProcessor.Unicode.Extending
import ArgProcessor.Unicode.Ignorable

namespace ArgProcessor

/-- How grave an event is. -/
inductive LogLevel where
  | error
  | warn
  | info
  | debug
  | trace
deriving DecidableEq, Repr

/-- The place of a level, from the gravest on. -/
def LogLevel.rank : LogLevel → Nat
  | .error => 1
  | .warn => 2
  | .info => 3
  | .debug => 4
  | .trace => 5

/-- The name of a level, filled up on the left to five characters. -/
def LogLevel.label : LogLevel → String
  | .error => "ERROR"
  | .warn => " WARN"
  | .info => " INFO"
  | .debug => "DEBUG"
  | .trace => "TRACE"

/-- Something that happened in a run. -/
inductive LogEvent where
  | listRead (path : String) (arguments : Nat)
  | unknownLanguage (tag : String)
  | classRendered (className : String) (arguments : Nat) (separator : String)
  | classWritten (path : String)
deriving DecidableEq, Repr

/-- Whether a character cannot be told from the ones around it: a mark that joins the character
    before it, other than the two halfwidth sound marks, which have a width of their own, or a
    character that may show nothing. -/
def isHidden (c : Char) : Bool :=
  (Unicode.isExtending c && c != '\uFF9E' && c != '\uFF9F') || Unicode.isIgnorable c

/-- An identifier between quotes.  No character of an identifier needs an escape but the hidden
    ones. -/
def quoteIdentifier (name : String) : String :=
  String.ofList ('"' :: (name.toList.flatMap mark ++ ['"']))
where
  /-- A character inside the quotes. -/
  mark (c : Char) : List Char :=
    if isHidden c then ['\\', 'u', '\x7b'] ++ hexDigits c.toNat ++ ['\x7d'] else [c]

namespace LogEvent

def level : LogEvent → LogLevel
  | .unknownLanguage _ => .warn
  | _ => .debug

def target : LogEvent → String
  | .listRead _ _ => "argsmith::commands::generate"
  | _ => "argsmith_codegen_java::generator"

def message : LogEvent → String
  | .listRead _ _ => "read argument list"
  | .unknownLanguage _ => "unknown class language, emitting no imports"
  | .classRendered _ _ _ => "rendered processor class"
  | .classWritten _ => "wrote processor class"

def fields : LogEvent → List (String × String)
  | .listRead path arguments => [("path", path), ("arguments", toString arguments)]
  | .unknownLanguage tag => [("language", tag)]
  | .classRendered className arguments separator =>
    [("class", quoteIdentifier className), ("arguments", toString arguments),
      ("separator", separator)]
  | .classWritten path => [("path", path)]

def fieldNames (e : LogEvent) : List String := "message" :: e.fields.map Prod.fst

def line (e : LogEvent) : String :=
  e.level.label ++ " " ++ e.target ++ ": " ++ e.message ++
    String.join (e.fields.map fun f => " " ++ f.1 ++ "=" ++ f.2) ++ "\n"

end LogEvent

end ArgProcessor
