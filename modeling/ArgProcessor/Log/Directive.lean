/-
  ArgProcessor/Log/Directive.lean
  ===============================
  **Directives of a log filter**, and reading them.

  A directive lets through events up to a level, from the targets that start with a text and with
  a field of some name.  It is written `target[span{field=value}]=level`, where each part can be
  left out, or as a level alone.  No event is in a span or has the value of a field that is asked
  for, so a directive with one of them is about no event (`LogDirective.isAboutEvents`).

  Places in the text of a directive are counted in bytes from its first character that is not
  blank, and the parts are then cut at these places from the text with its blanks: blanks at the
  end belong to the last part, and blanks at the start push every part back.
-/
import ArgProcessor.Log.Event
import ArgProcessor.Pattern.Reading
import ArgProcessor.Text.Bytes
import ArgProcessor.Text.Decimal
import ArgProcessor.Unicode.Blank
import ArgProcessor.Unicode.Number

namespace ArgProcessor

/-- A field that a directive asks for, and the value it asks of it. -/
structure FieldCondition where
  name : String
  value : Option String
deriving DecidableEq, Repr

/-- Lets through events up to a rank; the rank 0 lets nothing through. -/
structure LogDirective where
  target : String
  span : Option String := none
  field : Option FieldCondition := none
  rank : Nat
deriving DecidableEq, Repr

/-! ### The parts of a directive -/

/-- The rank that a word names: a level in any case, `off`, or a number up to five. -/
def logRank? (word : List Char) : Option Nat :=
  match countOf? word with
  | some n => if n ≤ LogLevel.trace.rank then some n else none
  | none =>
    match String.ofList (word.map Char.toLower) with
    | "off" => some 0
    | "error" => some LogLevel.error.rank
    | "warn" => some LogLevel.warn.rank
    | "info" => some LogLevel.info.rank
    | "debug" => some LogLevel.debug.rank
    | "trace" => some LogLevel.trace.rank
    | _ => none

/-- Reads a field: a name, and a value after an equals sign.  Values are numbers or regular
    expressions. -/
def FieldCondition.ofChars? (cs : List Char) : Option FieldCondition :=
  if cs.isEmpty then none
  else
    match cs.splitOn '=' with
    | name :: value :: _ =>
      if isNumber value || isUsablePattern value then
        some ⟨String.ofList name, some (String.ofList value)⟩
      else none
    | _ => some ⟨String.ofList cs, none⟩

/-! ### Reading a directive -/

/-- Where the reading of a directive stands; `first` is the byte at which a part starts. -/
inductive DirectiveState where
  | start
  /-- In a level or a target. -/
  | word
  | span (first : Nat)
  | field (first : Nat)
  /-- After the field. -/
  | fieldEnd
  /-- After the brackets around span and field. -/
  | bracketEnd
  | level (first : Nat)
deriving DecidableEq, Repr

/-- What has been read of a directive. -/
structure DirectiveReading where
  state : DirectiveState := .start
  target : String := ""
  span : Option String := none
  field : Option FieldCondition := none
deriving DecidableEq, Repr

/-- Whether a directive may start with the character, a bracket apart. -/
def startsDirective (c : Char) : Bool :=
  c == '-' || c == ':' || c == '_' || Unicode.isAlphanumeric c

namespace DirectiveReading

/-- Reads the character `c` at the byte `i` of a directive; parts are cut from `text`. -/
def step (text : List Char) (r : DirectiveReading) (i : Nat) (c : Char) :
    Option DirectiveReading :=
  match r.state with
  | .start =>
    if c == '[' then some { r with state := .span (i + 1) }
    else if startsDirective c then some { r with state := .word }
    else none
  | .word =>
    if c == '=' || c == '[' then do
      let target := String.ofList (← bytesBetween? text 0 i)
      return { r with target, state := if c == '=' then .level (i + 1) else .span (i + 1) }
    else some r
  | .span first =>
    if c == ']' then do
      let span := String.ofList (← bytesBetween? text first i)
      return { r with span := some span, state := .bracketEnd }
    else if c == '\x7b' then do
      let span := String.ofList (← bytesBetween? text first i)
      return { r with span := if span.isEmpty then none else some span, state := .field (i + 1) }
    else some r
  | .field first =>
    if c == '\x7d' then do
      let field ← FieldCondition.ofChars? (← bytesBetween? text first i)
      return { r with field := some field, state := .fieldEnd }
    else some r
  | .fieldEnd => if c == ']' then some { r with state := .bracketEnd } else none
  | .bracketEnd => if c == '=' then some { r with state := .level (i + 1) } else none
  | .level _ => some r

/-- What has been read as a directive, at the end of the text.  A level that is left out stands
    for all levels. -/
def directive? (text : List Char) (r : DirectiveReading) : Option LogDirective :=
  match r.state with
  | .word =>
    match logRank? text with
    | some rank => some { target := "", rank }
    | none => some { target := String.ofList text, rank := LogLevel.trace.rank }
  | .bracketEnd => some ⟨r.target, r.span, r.field, LogLevel.trace.rank⟩
  | .level first => do
    let (_, word) ← cutAtByte? first text
    let rank ← if word.isEmpty then some LogLevel.trace.rank else logRank? word
    return ⟨r.target, r.span, r.field, rank⟩
  | _ => none

end DirectiveReading

namespace LogDirective

def ofChars? (text : List Char) : Option LogDirective := do
  let places := withOffsets 0 (Unicode.trim text)
  let r ← places.foldlM (fun r place => DirectiveReading.step text r place.1 place.2) {}
  r.directive? text

/-! ### Applying a directive -/

/-- Whether there can be an event that the directive is about. -/
def isAboutEvents (d : LogDirective) : Bool :=
  d.span.isNone && d.field.all fun f => f.value.isNone

def fits (d : LogDirective) (e : LogEvent) : Bool :=
  d.isAboutEvents && d.target.toList.isPrefixOf e.target.toList &&
    d.field.all fun f => e.fieldNames.contains f.name

/-- The name of the field that the directive asks for, or nothing. -/
def fieldName (d : LogDirective) : String := (d.field.map FieldCondition.name).getD ""

/-- Whether a directive gives way to a later one about the same event: to a longer target, and
    between equal ones to a field where it asks for none or for one that is not greater. -/
def givesWayTo (old new : LogDirective) : Bool :=
  old.target.length < new.target.length ||
    (old.target.length == new.target.length && old.fieldName ≤ new.fieldName)

end LogDirective

end ArgProcessor
