/-
  ArgProcessor/Pattern/ClassReading.lean
  ======================================
  **Reading the classes of a pattern.**

  A class is a list of characters, ranges, sets and further classes between brackets, combined by
  `&&`, `--` and `~~`.  At its start a caret negates it, hyphens stand for themselves, and so does
  a closing bracket where no hyphen is before it.  Readers give back the text that they leave.
-/
import ArgProcessor.Pattern.Escape

namespace ArgProcessor

def classNames : List String :=
  ["alnum", "alpha", "ascii", "blank", "cntrl", "digit", "graph", "lower", "print", "punct",
    "space", "upper", "word", "xdigit"]

def readNamedSet? : List Char → Option (PatternClass × List Char)
  | ':' :: cs =>
    let negated := cs.head? == some '^'
    let named := if negated then cs.tail else cs
    let name := String.ofList (named.takeWhile (· ≠ ':'))
    match named.dropWhile (· ≠ ':') with
    | ':' :: ']' :: rest =>
      if classNames.contains name then some (.named negated, rest) else none
    | _ => none
  | _ => none

/-- Reads a single member of a class or a range. -/
def readMember (spaced : Bool) (cs : List Char) : Option (PatternClass × List Char) := do
  let (first, rest) ← readClassAtom spaced cs
  match skipFiller spaced rest with
  | [] => none
  | c :: more =>
    let next := peekNext spaced more
    if c != '-' || next == some ']' || next == some '-' then
      return (← first.asMember?, c :: more)
    else
      let (last, left) ← readClassAtom spaced (skipFiller spaced more)
      let low ← first.asChar?
      let high ← last.asChar?
      if low.char ≤ high.char then return (.range low high, left) else none

/-- Reads the hyphens at the start of a class, and the filler around them. -/
def readHyphens (spaced inComment : Bool) : List Char → List PatternClass × List Char
  | [] => ([], [])
  | c :: cs =>
    if inComment then readHyphens spaced (c != '\n') cs
    else if c == '-' then
      let (hyphens, rest) := readHyphens spaced false cs
      (.char ⟨'-', false⟩ :: hyphens, rest)
    else if spaced && Unicode.isBlank c then readHyphens spaced false cs
    else if spaced && c == '#' then readHyphens spaced true cs
    else ([], c :: cs)

/-- The start of a class, after its bracket: whether it is negated, the members that only the
    start may hold, and the text after them. -/
def readClassStart (spaced : Bool) (cs : List Char) : Bool × List PatternClass × List Char :=
  let start := skipFiller spaced cs
  let negated := start.head? == some '^'
  match readHyphens spaced false (if negated then start.tail else start) with
  | ([], ']' :: rest) => (negated, [.char ⟨']', false⟩], rest)
  | (hyphens, rest) => (negated, hyphens, rest)

/-- The set on the left of an operator, if there is one, combined with the members after it. -/
def combineSets (left : Option PatternClass) (members : List PatternClass) : PatternClass :=
  match left with
  | none => .ofSets members.reverse
  | some set => .combination set (.ofSets members.reverse)

/-- Reads the rest of a class, the members before being given last first. -/
def readMembers (spaced : Bool) (left : Option PatternClass) (members : List PatternClass) :
    Nat → List Char → Option (PatternClass × List Char)
  | 0, _ => none
  | fuel + 1, cs =>
    match skipFiller spaced cs with
    | [] => none
    | ']' :: rest => some (combineSets left members, rest)
    | '&' :: '&' :: rest | '-' :: '-' :: rest | '~' :: '~' :: rest =>
      readMembers spaced (some (combineSets left members)) [] fuel rest
    | '[' :: rest =>
      match readNamedSet? rest with
      | some (set, more) => readMembers spaced left (set :: members) fuel more
      | none =>
        let (negated, start, inside) := readClassStart spaced rest
        match readMembers spaced none start.reverse fuel inside with
        | some (set, more) =>
          readMembers spaced left (.nested negated set :: members) fuel more
        | none => none
    | c :: rest =>
      match readMember spaced (c :: rest) with
      | some (set, more) => readMembers spaced left (set :: members) fuel more
      | none => none

def readClass (spaced : Bool) (cs : List Char) : Option (Pattern × List Char) := do
  let (negated, start, inside) := readClassStart spaced cs
  let (set, rest) ← readMembers spaced none start.reverse (inside.length + 1) inside
  return (.bracketed negated set, rest)

end ArgProcessor
