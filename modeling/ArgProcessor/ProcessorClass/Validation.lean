/-
  ArgProcessor/ProcessorClass/Validation.lean
  ===========================================
  **Validation procedures.**

  The procedure of an argument reads its value as a text and then has one clause for each check
  asked for, in the order of the checks.  A mandatory argument is reported when its value is
  empty; the other checks look at the file system when it is not.
-/
import ArgProcessor.Argument.Basic
import ArgProcessor.Code.Basic
import ArgProcessor.ProcessorClass.Literal

namespace ArgProcessor

def Check.condition : Check → String
  | .mandatory => "value.isEmpty()"
  | _ => "!value.isEmpty()"

def Check.printed (name : String) : Check → String
  | .mandatory => stringLiteral ("parameter " ++ name ++ " is not passed")
  | .existing => stringLiteral ("file " ++ name ++ " exists? ") ++ " + new File(value).exists()"
  | .readAccess =>
    stringLiteral ("file " ++ name ++ " has read access? ") ++ " + new File(value).canRead()"
  | .writeAccess =>
    stringLiteral ("file " ++ name ++ " has write access? ") ++ " + new File(value).canWrite()"

/-- The clause of a check: a block that prints under its condition. -/
def Check.clause (name : String) (c : Check) : Code :=
  .block ("if (" ++ c.condition ++ ") \x7b") "\x7d"
    [.line ("System.out.println(" ++ c.printed name ++ ");")]

/-- The body of the validation procedure of an argument whose accessors end in `suffix`. -/
def Argument.validationBody (a : Argument) (suffix : String) : List Code :=
  .line ("String value = Objects.toString(get" ++ suffix ++ "(), \"\");") ::
    a.checks.map (Check.clause a.name)

/-- The body of the validation procedure of an argument, as a text of its own. -/
def Argument.validation (a : Argument) : Except NameError String :=
  (accessorSuffix a.name).map fun suffix => codeText 0 (a.validationBody suffix)

end ArgProcessor
