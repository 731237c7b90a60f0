/-
  ArgProcessor/Pattern/Support.lean
  =================================
  **Which patterns can be used.**

  A pattern is matched without tables of Unicode properties and against UTF-8.  So, as long as
  Unicode is not switched off, it may not fold case, name a set by letter or property, or ask for
  the edge of a word; and where it is switched off, no set may reach beyond ASCII.  Besides, its
  parts may not be nested too deep (`Pattern.height`).
-/
import ArgProcessor.Pattern.Basic

namespace ArgProcessor

/-- How deep the parts of a pattern may be nested. -/
def maxPatternHeight : Nat := 250

/-! ### Nesting -/

mutual

def PatternClass.height : PatternClass → Nat
  | .nested _ set => set.height + 1
  | .union [] => 0
  | .union (set :: sets) => max set.height (PatternClass.heightAll sets) + 1
  | .combination left right => max left.height right.height + 1
  | _ => 0

def PatternClass.heightAll : List PatternClass → Nat
  | [] => 0
  | set :: sets => max set.height (PatternClass.heightAll sets)

end

mutual

def Pattern.height : Pattern → Nat
  | .bracketed _ set => set.height + 1
  | .repeated item => item.height + 1
  | .group _ inside => inside.height + 1
  | .sequence items => Pattern.heightAll items + 1
  | .alternatives choices => Pattern.heightAll choices + 1
  | _ => 0

def Pattern.heightAll : List Pattern → Nat
  | [] => 0
  | p :: ps => max p.height (Pattern.heightAll ps)

end

/-! ### Features -/

/-- The features that are on where a part of a pattern stands. -/
structure PatternMode where
  caseless : Bool := false
  unicode : Bool := true
deriving DecidableEq, Repr

/-- The features after marks. -/
def PatternMode.after (mode : PatternMode) (m : PatternMarks) : PatternMode :=
  ⟨m.switch 'i' mode.caseless, m.switch 'u' mode.unicode⟩

/-- Whether a character can be matched. -/
def PatternChar.isSupported (c : PatternChar) (mode : PatternMode) : Bool :=
  if mode.unicode then !mode.caseless else !c.isByte || c.char.toNat < 128

/-- Whether a class may be negated or not. -/
def supportsNegation (negated : Bool) (mode : PatternMode) : Bool := mode.unicode || !negated

/-- Whether a character can be in a class. -/
def PatternChar.isMember (c : PatternChar) (mode : PatternMode) : Bool :=
  if mode.unicode then !mode.caseless else c.char.toNat < 128

mutual

def PatternClass.isSupported (mode : PatternMode) : PatternClass → Bool
  | .char c => c.isMember mode
  | .range low high => low.isMember mode && high.isMember mode
  | .named negated => if mode.unicode then !mode.caseless else !negated
  | .shorthand negated => !mode.unicode && !negated
  | .property => false
  | .nested negated set => supportsNegation negated mode && set.isSupported mode
  | .union sets => PatternClass.allSupported mode sets
  | .combination left right => left.isSupported mode && right.isSupported mode

def PatternClass.allSupported (mode : PatternMode) : List PatternClass → Bool
  | [] => true
  | set :: sets => set.isSupported mode && PatternClass.allSupported mode sets

end

mutual

/-- The features after a pattern, if it can be matched where those in `mode` are on. -/
def Pattern.modeAfter? (mode : PatternMode) : Pattern → Option PatternMode
  | .empty | .edge => some mode
  | .marks m => some (mode.after m)
  | .char c => if c.isSupported mode then some mode else none
  | .any => if mode.unicode then some mode else none
  | .wordEdge => if mode.unicode then none else some mode
  | .shorthand negated => if mode.unicode || negated then none else some mode
  | .property => none
  | .bracketed negated set =>
    if supportsNegation negated mode && set.isSupported mode then some mode else none
  | .repeated item => item.modeAfter? mode
  | .group m inside => (inside.modeAfter? (mode.after m)).map fun _ => mode
  | .sequence items => Pattern.modeAfterAll? mode items
  | .alternatives choices => Pattern.modeAfterAll? mode choices

/-- The features after some patterns in turn. -/
def Pattern.modeAfterAll? (mode : PatternMode) : List Pattern → Option PatternMode
  | [] => some mode
  | p :: ps =>
    match p.modeAfter? mode with
    | some next => Pattern.modeAfterAll? next ps
    | none => none

end

def Pattern.isUsable (p : Pattern) : Bool :=
  p.height ≤ maxPatternHeight && (p.modeAfter? {}).isSome

end ArgProcessor
