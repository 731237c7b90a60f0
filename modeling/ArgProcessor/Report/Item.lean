/-
  ArgProcessor/Report/Item.lean
  =============================
  **What a report says, item by item, and how a terminal shows it.**

  A report is a sequence of items.  On a terminal every item is a line of its own except raw
  text, which is shown as it is; warnings go to the error stream and all else to the output.
-/

namespace ArgProcessor

/-- One item of a report. -/
inductive ReportItem where
  | heading (name : String)
  | listItem (text : String)
  | info (text : String)
  | success (text : String)
  | warning (text : String)
  /-- A labelled line between parts. -/
  | divider (label : String)
  | raw (text : String)
  | newline
deriving DecidableEq, Repr

namespace ReportItem

def output : ReportItem → String
  | .heading name => name ++ ":\n"
  | .listItem text => "  - " ++ text ++ "\n"
  | .info text => text ++ "\n"
  | .success text => "✓ " ++ text ++ "\n"
  | .warning _ => ""
  | .divider label => "── " ++ label ++ " ──\n"
  | .raw text => text
  | .newline => "\n"

def errorOutput : ReportItem → String
  | .warning text => "warning: " ++ text ++ "\n"
  | _ => ""

def outputAll (items : List ReportItem) : String := String.join (items.map output)

def errorOutputAll (items : List ReportItem) : String := String.join (items.map errorOutput)

end ReportItem

/-- A number of arguments in words. -/
def countArguments (n : Nat) : String :=
  toString n ++ (if n = 1 then " argument" else " arguments")

end ArgProcessor
