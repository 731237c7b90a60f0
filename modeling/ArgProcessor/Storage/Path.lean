/-
  ArgProcessor/Storage/Path.lean
  ==============================
  **Paths as texts.**

  A path is cut at its slashes into parts (`pathParts`); it starts at the root when its first
  character is a slash.  Steps that stay in place, `.` parts, name nothing, save one at the very
  start.  The directories above a file are the texts up to each part that names something
  (`directoriesAbove`), with all that stands before it.
-/

namespace ArgProcessor

/-- The longest name of a file or directory, in bytes. -/
def maxNameBytes : Nat := 255

/-- The longest path, in bytes. -/
def maxPathBytes : Nat := 4095

/-- The parts of a path between its slashes. -/
def pathParts (path : String) : List String :=
  ((path.toList.splitOn '/').filter (!·.isEmpty)).map String.ofList

def startsAtRoot (path : String) : Bool := path.toList.head? == some '/'

def endsInSlash (path : String) : Bool := path.toList.getLast? == some '/'

/-- The parts that name something: all but `.`, which is kept only where a path starts with it. -/
def namingParts (path : String) : List String :=
  match startsAtRoot path, pathParts path with
  | false, "." :: rest => "." :: rest.filter (· ≠ ".")
  | _, parts => parts.filter (· ≠ ".")

/-- The texts from the start of a path up to each part that names something; `before` is what
    stands before the parts, and `isFirst` tells whether that is nothing. -/
def namingPrefixes (before : List Char) (isFirst : Bool) : List (List Char) → List String
  | [] => []
  | part :: rest =>
    let here := before ++ part
    let names := !part.isEmpty && (isFirst || part != ['.'])
    (if names then [String.ofList here] else []) ++ namingPrefixes (here ++ ['/']) false rest

/-- A path and the directories above it, the outermost first. -/
def pathPrefixes (path : String) : List String := namingPrefixes [] true (path.toList.splitOn '/')

/-- The directories above a path, the outermost first. -/
def directoriesAbove (path : String) : List String := (pathPrefixes path).dropLast

def joinPath (fromRoot : Bool) (parts : List String) : String :=
  (if fromRoot then "/" else "") ++ "/".intercalate parts

end ArgProcessor
