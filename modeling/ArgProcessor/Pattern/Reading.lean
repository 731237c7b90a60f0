/-
  ArgProcessor/Pattern/Reading.lean
  =================================
  **Reading a pattern** (`Pattern.ofChars?`), and whether a text is one that can be used
  (`isUsablePattern`).

  A pattern is a list of alternatives, each a list of items: characters, classes, groups and
  places, with repetition signs after what they repeat.  Groups start with marks, with a name that
  no other group has, or with neither.
-/
import ArgProcessor.Pattern.ClassReading
import ArgProcessor.Pattern.Support
import ArgProcessor.Unicode.Number

namespace ArgProcessor

/-! ### Groups -/

/-- The features that marks can switch. -/
def patternFeatures : List Char := ['i', 'm', 's', 'U', 'u', 'R', 'x']

/-- Reads marks up to the character that ends them. -/
def readMarks (m : PatternMarks) : List Char → Option (PatternMarks × List Char)
  | [] => none
  | c :: cs =>
    if c == ':' || c == ')' then
      if m.negated && m.off.isEmpty then none else some (m, c :: cs)
    else if c == '-' then
      if m.negated then none else readMarks { m with negated := true } cs
    else if !patternFeatures.contains c || m.on.contains c || m.off.contains c then none
    else if m.negated then readMarks { m with off := c :: m.off } cs
    else readMarks { m with on := c :: m.on } cs

/-- Whether a text can name a group. -/
def isGroupName : List Char → Bool
  | [] => false
  | c :: cs =>
    (c == '_' || Unicode.isAlphabetic c) &&
      cs.all fun d => ['_', '.', '[', ']'].contains d || Unicode.isAlphanumeric d

/-- How a group starts. -/
inductive GroupStart where
  /-- Marks for the rest of the group around it. -/
  | marks (m : PatternMarks)
  | group (m : PatternMarks)
  | named (name : List Char)
deriving DecidableEq, Repr

/-- Reads a name up to the bracket that ends it. -/
def readGroupName (cs : List Char) : Option (GroupStart × List Char) :=
  let name := cs.takeWhile (· ≠ '>')
  match cs.dropWhile (· ≠ '>') with
  | _ :: rest => if isGroupName name then some (.named name, rest) else none
  | [] => none

def readGroupStart : List Char → Option (GroupStart × List Char)
  | '?' :: '=' :: _ | '?' :: '!' :: _ | '?' :: '<' :: '=' :: _ | '?' :: '<' :: '!' :: _ => none
  | '?' :: 'P' :: '<' :: cs => readGroupName cs
  | '?' :: '<' :: cs => readGroupName cs
  | '?' :: cs => do
    match ← readMarks {} cs with
    | (m, ')' :: rest) => if m.isEmpty then none else some (.marks m, rest)
    | (m, rest) => some (.group m, rest.tail)
  | cs => some (.group {}, cs)

/-! ### Patterns -/

/-- What has been read of the innermost group that is open. -/
structure GroupReading where
  /-- Whether white space is filler. -/
  spaced : Bool := false
  /-- The alternatives before, the last first. -/
  choices : List Pattern := []
  /-- The items of this alternative, the last first. -/
  items : List Pattern := []
  /-- The marks that the group started with. -/
  marks : PatternMarks := {}

namespace GroupReading

def push (g : GroupReading) (item : Pattern) : GroupReading := { g with items := item :: g.items }

def split (g : GroupReading) : GroupReading :=
  { g with choices := .ofItems g.items.reverse :: g.choices, items := [] }

def pattern (g : GroupReading) : Pattern := .ofChoices g.split.choices.reverse

/-- Repeats the last item, if there is one that can be. -/
def repeatLast? (g : GroupReading) : Option GroupReading :=
  match g.items with
  | item :: before =>
    if item.isRepeatable then some { g with items := .repeated item :: before } else none
  | [] => none

end GroupReading

/-- Where the reading of a pattern stands: the open groups, the innermost first and apart from
    the others, and the names that groups have. -/
structure PatternReading where
  current : GroupReading := {}
  outer : List GroupReading := []
  names : List (List Char) := []

namespace PatternReading

/-- Adds an item. -/
def push (r : PatternReading) (item : Pattern) : PatternReading :=
  { r with current := r.current.push item }

def openGroup (r : PatternReading) (m : PatternMarks) : PatternReading :=
  { r with
    current := { spaced := m.switch 'x' r.current.spaced, marks := m }
    outer := r.current :: r.outer }

/-- Takes the start of a group; its name may not be taken. -/
def start? (r : PatternReading) : GroupStart → Option PatternReading
  | .marks m =>
    let spaced := m.switch 'x' r.current.spaced
    some { r with current := { r.current.push (.marks m) with spaced } }
  | .group m => some (r.openGroup m)
  | .named name =>
    if r.names.contains name then none
    else some { r.openGroup {} with names := name :: r.names }

def closeGroup? (r : PatternReading) : Option PatternReading :=
  match r.outer with
  | [] => none
  | around :: outer =>
    some { r with current := around.push (.group r.current.marks r.current.pattern), outer }

/-- Reads one item or sign; the text does not start with filler. -/
def step (r : PatternReading) : List Char → Option (PatternReading × List Char)
  | [] => none
  | c :: cs =>
    let spaced := r.current.spaced
    match c with
    | '(' => do
      let (start, rest) ← readGroupStart (skipFiller spaced cs)
      return (← r.start? start, rest)
    | ')' => do return (← r.closeGroup?, cs)
    | '|' => some ({ r with current := r.current.split }, cs)
    | '[' => do
      let (item, rest) ← readClass spaced cs
      return (r.push item, rest)
    | '?' | '*' | '+' => do
      let current ← r.current.repeatLast?
      return ({ r with current }, if cs.head? == some '?' then cs.tail else cs)
    | '\x7b' => none
    | '\\' => do
      let (item, rest) ← readEscape spaced cs
      return (r.push item, rest)
    | '.' => some (r.push .any, cs)
    | '^' | '$' => some (r.push .edge, cs)
    | _ => some (r.push (.char ⟨c, false⟩), cs)

/-- Reads to the end of a text.  Every step takes a character at least, so that as many steps
    as there are characters, and one for the end, are enough. -/
def run (r : PatternReading) : Nat → List Char → Option PatternReading
  | 0, _ => none
  | fuel + 1, cs =>
    match skipFiller r.current.spaced cs with
    | [] => some r
    | c :: rest =>
      match r.step (c :: rest) with
      | some (next, left) => next.run fuel left
      | none => none

end PatternReading

def Pattern.ofChars? (cs : List Char) : Option Pattern :=
  match PatternReading.run {} (cs.length + 1) cs with
  | some r => if r.outer.isEmpty then some r.current.pattern else none
  | none => none

/-- Whether a text is a pattern that can be used. -/
def isUsablePattern (cs : List Char) : Bool := (Pattern.ofChars? cs).any Pattern.isUsable

end ArgProcessor
