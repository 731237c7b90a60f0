/-
  ArgProcessor/Pattern/Basic.lean
  ===============================
  **Regular expressions** as trees.

  A pattern is built from single characters, classes, places in the text, repetitions, groups,
  sequences and alternatives.  Marks switch features on and off, for a group or for the rest of
  the group that they stand in.  What is told apart is what decides whether a pattern can be used
  (`ArgProcessor.Pattern.Support`): not which set a name stands for, nor how often an item repeats.
-/

namespace ArgProcessor

/-- Marks such as `i-s`: the features switched on and, after a hyphen, those switched off. -/
structure PatternMarks where
  on : List Char := []
  off : List Char := []
  negated : Bool := false
deriving DecidableEq, Repr

namespace PatternMarks

def isEmpty (m : PatternMarks) : Bool := m.on.isEmpty && m.off.isEmpty && !m.negated

/-- What becomes of a feature that was on or off before. -/
def switch (m : PatternMarks) (feature : Char) (before : Bool) : Bool :=
  if m.on.contains feature then true
  else if m.off.contains feature then false
  else before

end PatternMarks

/-- A character that stands for itself, or one given by two hexadecimal digits. -/
structure PatternChar where
  char : Char
  isByte : Bool := false
deriving DecidableEq, Repr

/-- What stands between the brackets of a class. -/
inductive PatternClass where
  | char (c : PatternChar)
  | range (low high : PatternChar)
  /-- A set with a name between colons. -/
  | named (negated : Bool)
  /-- A set named by a letter: digits, white space or word characters. -/
  | shorthand (negated : Bool)
  /-- A set named by a Unicode property. -/
  | property
  | nested (negated : Bool) (set : PatternClass)
  | union (sets : List PatternClass)
  /-- An intersection or a difference. -/
  | combination (left right : PatternClass)
deriving Repr

inductive Pattern where
  | empty
  | marks (m : PatternMarks)
  | char (c : PatternChar)
  | any
  | edge
  | wordEdge
  | shorthand (negated : Bool)
  | property
  | bracketed (negated : Bool) (set : PatternClass)
  | repeated (item : Pattern)
  | group (m : PatternMarks) (inside : Pattern)
  | sequence (items : List Pattern)
  | alternatives (choices : List Pattern)
deriving Repr

/-- The union of sets; a single one is its own union. -/
def PatternClass.ofSets : List PatternClass → PatternClass
  | [set] => set
  | sets => union sets

namespace Pattern

/-- Items one after the other; a single one is its own sequence. -/
def ofItems : List Pattern → Pattern
  | [] => empty
  | [item] => item
  | items => sequence items

/-- Choices; a single one is its own alternative. -/
def ofChoices : List Pattern → Pattern
  | [choice] => choice
  | choices => alternatives choices

/-- Whether the item can be repeated. -/
def isRepeatable : Pattern → Bool
  | empty | marks _ => false
  | _ => true

/-- The item as a member of a class, if it can be one. -/
def asMember? : Pattern → Option PatternClass
  | char c => some (.char c)
  | shorthand negated => some (.shorthand negated)
  | property => some .property
  | _ => none

/-- The item as the end of a range, if it can be one. -/
def asChar? : Pattern → Option PatternChar
  | char c => some c
  | _ => none

end Pattern

end ArgProcessor
