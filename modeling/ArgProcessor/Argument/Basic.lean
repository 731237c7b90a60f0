/-
  ArgProcessor/Argument/Basic.lean
  ================================
  **One argument of a program**: its name, the token of its type and the checks asked for.

  The four checks come in one fixed order, that of the columns (`Check.all`), in which they are
  generated and reported (`Argument.checks`).
-/
import ArgProcessor.Argument.Name
import ArgProcessor.Argument.Kind

namespace ArgProcessor

/-- What can be asked of the value of an argument. -/
inductive Check where
  | mandatory
  | existing
  | readAccess
  | writeAccess
deriving DecidableEq, Repr

/-- The checks in the order of their columns. -/
def Check.all : List Check := [.mandatory, .existing, .readAccess, .writeAccess]

/-- The name of a check in the constants of the program. -/
def Check.name : Check → String
  | .mandatory => "Mandatory"
  | .existing => "Existing"
  | .readAccess => "ReadAccess"
  | .writeAccess => "WriteAccess"

/-- The word for a check in a report. -/
def Check.label : Check → String
  | .mandatory => "mandatory"
  | .existing => "existing"
  | .readAccess => "readable"
  | .writeAccess => "writable"

/-- An argument as one row of an argument list declares it. -/
structure Argument where
  name : String
  typeToken : String
  mandatory : Bool := false
  existing : Bool := false
  readable : Bool := false
  writable : Bool := false
deriving DecidableEq, Repr

namespace Argument

def kind (a : Argument) : Kind := Kind.ofToken a.typeToken

/-- The word that introduces the argument on a command line. -/
def key (a : Argument) : String := "-" ++ a.name

/-- Whether a check is asked for. -/
def wants (a : Argument) : Check → Bool
  | .mandatory => a.mandatory
  | .existing => a.existing
  | .readAccess => a.readable
  | .writeAccess => a.writable

/-- The checks asked for, in the order of their columns. -/
def checks (a : Argument) : List Check := Check.all.filter a.wants

/-- Whether some check looks at the file system. -/
def wantsFilesystem (a : Argument) : Bool := a.existing || a.readable || a.writable

theorem mem_checks {a : Argument} {c : Check} : c ∈ a.checks ↔ a.wants c = true := by
  cases c <;> simp [checks, Check.all]

end Argument

/-- Whether a flag column says yes: only the exact word does. -/
def readsYes (token : String) : Bool := token == "Yes"

end ArgProcessor
