/-
  ArgProcessor/ArgumentList/Row.lean
  ==================================
  **Rows**: one argument declared on one line.

  A row has six fields between commas, each trimmed: the name, the type, and four flags that are
  set by the word `Yes` alone.  A row can be at fault in three ways (`RowFault`), looked for in
  this order: the number of fields, an empty name, a name that is no identifier.
-/
import ArgProcessor.Argument.Basic
import ArgProcessor.ArgumentList.Line

namespace ArgProcessor

/-- What is wrong with a row. -/
inductive RowFault where
  /-- The row has `found` fields and not six. -/
  | wrongColumnCount (found : Nat)
  | emptyName
  | notIdentifier (name : String)
  /-- A fault in the words of whoever found it. -/
  | stated (reason : String)
deriving DecidableEq, Repr

def columnCount : Nat := 6

def RowFault.reason : RowFault → String
  | .wrongColumnCount found => s!"expected {columnCount} columns, found {found}"
  | .emptyName => NameError.empty.message
  | .notIdentifier name => s!"argument name '{name}' is not an identifier"
  | .stated reason => reason

def rowFields (row : List Char) : List (List Char) := (row.splitOn ',').map Unicode.trim

/-- The argument that six fields declare. -/
def argumentOfFields : List (List Char) → Except RowFault Argument
  | [name, type, mandatory, existing, readable, writable] =>
    if name.isEmpty then
      .error .emptyName
    else if isIdentifierChars name then
      .ok {
        name := String.ofList name
        typeToken := String.ofList type
        mandatory := readsYes (String.ofList mandatory)
        existing := readsYes (String.ofList existing)
        readable := readsYes (String.ofList readable)
        writable := readsYes (String.ofList writable) }
    else
      .error (.notIdentifier (String.ofList name))
  | others => .error (.wrongColumnCount others.length)

def Line.argument (l : Line) : Except RowFault Argument := argumentOfFields (rowFields l.text)

/-- An argument and the number of the line that declares it. -/
structure Row where
  line : Nat
  argument : Argument
deriving DecidableEq, Repr

/-! ### Rows of a text -/

/-- The rows that lines declare, blank lines left out, or the first line at fault. -/
def rowsOfLines : List Line → Except (Line × RowFault) (List Row)
  | [] => .ok []
  | l :: rest =>
    if l.isBlank then
      rowsOfLines rest
    else
      match l.argument with
      | .error fault => .error (l, fault)
      | .ok a =>
        match rowsOfLines rest with
        | .error e => .error e
        | .ok rows => .ok (⟨l.number, a⟩ :: rows)

end ArgProcessor
