/-
  ArgProcessor/ProcessorClass/Member.lean
  =======================================
  **What one argument adds to the class**: a field, a handler, a setter, a getter and a
  validation procedure.

  An argument becomes a member once its name is known to be an identifier and its accessor
  suffix is found (`Member.ofArgument`).
-/
import ArgProcessor.ProcessorClass.Language
import ArgProcessor.ProcessorClass.Validation

namespace ArgProcessor

/-- Why no class can be generated.  Arguments are counted from 1. -/
inductive ClassError where
  | invalidClassName (name : String)
  | unnamedArgument (position : Nat) (cause : NameError)
  | invalidArgumentName (position : Nat) (name : String)
deriving DecidableEq, Repr

/-- The messages of an error, the outermost first and the root cause last. -/
def ClassError.chain : ClassError → List String
  | .invalidClassName name => [s!"invalid class name '{name}'"]
  | .unnamedArgument position cause =>
    [s!"argument #{position} has no usable name", cause.message]
  | .invalidArgumentName position name =>
    [s!"argument #{position} name '{name}' is not an identifier"]

/-- An argument with the suffix of its accessors. -/
structure Member where
  argument : Argument
  suffix : String
deriving DecidableEq, Repr

namespace Member

def ofArgument (position : Nat) (a : Argument) : Except ClassError Member :=
  match accessorSuffix a.name with
  | .error e => .error (.unnamedArgument position e)
  | .ok suffix =>
    if isIdentifier a.name then .ok ⟨a, suffix⟩
    else .error (.invalidArgumentName position a.name)

/-- The members of arguments counted from `position`, or the error of the first one that has a
    name that cannot be used. -/
def ofArguments (position : Nat) : List Argument → Except ClassError (List Member)
  | [] => .ok []
  | a :: rest =>
    match ofArgument position a with
    | .error e => .error e
    | .ok m =>
      match ofArguments (position + 1) rest with
      | .error e => .error e
      | .ok ms => .ok (m :: ms)

def name (m : Member) : String := m.argument.name

def typeName (m : Member) : String := m.argument.kind.typeName

/-- The expression that gives the value of the field from its text. -/
def conversion (m : Member) : String := m.argument.kind.conversion "value"

/-! ### Fragments of the class -/

def field (m : Member) : Code := .line ("private " ++ m.typeName ++ " " ++ m.name ++ ";")

def handler (m : Member) : Code :=
  .block ("handlers.put(" ++ stringLiteral m.argument.key ++ ", value -> \x7b") "\x7d);"
    [
      .line ("set" ++ m.suffix ++ "(" ++ m.conversion ++ ");"),
      .line ("validate" ++ m.suffix ++ "();")
    ]

def setter (m : Member) : Code :=
  .block ("public void set" ++ m.suffix ++ "(" ++ m.typeName ++ " " ++ m.name ++ ") \x7b") "\x7d"
    [.line ("this." ++ m.name ++ " = " ++ m.name ++ ";")]

def getter (m : Member) : Code :=
  .block ("public " ++ m.typeName ++ " get" ++ m.suffix ++ "() \x7b") "\x7d"
    [.line ("return " ++ m.name ++ ";")]

def validator (m : Member) : Code :=
  .block ("private void validate" ++ m.suffix ++ "() \x7b") "\x7d"
    (m.argument.validationBody m.suffix)

end Member

end ArgProcessor
