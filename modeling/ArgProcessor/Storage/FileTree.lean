/-
  ArgProcessor/Storage/FileTree.lean
  ==================================
  **A tree of files.**

  Files hold bytes and stand in directories, each at its place, the list of names from the root.
  Paths are followed part by part from the root or from a working directory: every part but the
  last has to be a directory (`FileTree.descend`).  Writing a text first makes the directories
  above the file (`FileTree.writeText`) and keeps those it made even if a later step fails.
-/
import ArgProcessor.Storage.AccessError
import ArgProcessor.Storage.Path

namespace ArgProcessor

/-- What can stand at a place. -/
inductive FileEntry where
  | directory
  | file (bytes : ByteArray)

/-- Entries by place, and the place where paths start.  The root is always a directory. -/
structure FileTree where
  entries : List (List String × FileEntry)
  workingDirectory : List String

/-- Where a path leads. -/
inductive PathTarget where
  /-- A directory that the path names by its steps alone. -/
  | directory (place : List String)
  /-- A name in a directory, with or without an entry. -/
  | name (parent : List String) (name : String)

namespace FileTree

/-- A tree with one empty directory, in which paths start. -/
def empty : FileTree := ⟨[(["work"], .directory)], ["work"]⟩

def entry? (t : FileTree) : List String → Option FileEntry
  | [] => some .directory
  | place => t.entries.lookup place

/-- Puts an entry at a place, in the stead of one that is there. -/
def put (t : FileTree) (place : List String) (e : FileEntry) : FileTree :=
  { t with entries := (place, e) :: t.entries.filter (·.1 ≠ place) }

/-! ### Following paths -/

/-- The directory that parts lead to from a directory. -/
def descend (t : FileTree) (place : List String) : List String → Except AccessError (List String)
  | [] => .ok place
  | part :: rest =>
    if part = "." then t.descend place rest
    else if part = ".." then t.descend place.dropLast rest
    else if maxNameBytes < part.utf8ByteSize then .error .nameTooLong
    else
      match t.entry? (place ++ [part]) with
      | none => .error .notFound
      | some (.file _) => .error .notDirectory
      | some .directory => t.descend (place ++ [part]) rest

/-- Where a path leads, if all directories on the way exist. -/
def target (t : FileTree) (path : String) : Except AccessError PathTarget :=
  if path.toList.contains '\x00' then .error .nulInPath
  else if path.isEmpty then .error .notFound
  else if maxPathBytes < path.utf8ByteSize then .error .nameTooLong
  else
    let start := if startsAtRoot path then [] else t.workingDirectory
    let parts := pathParts path
    match parts.getLast? with
    | none => .ok (.directory start)
    | some last =>
      match t.descend start parts.dropLast with
      | .error e => .error e
      | .ok parent =>
        if last = "." then .ok (.directory parent)
        else if last = ".." then .ok (.directory parent.dropLast)
        else .ok (.name parent last)

/-- The entry that a path leads to. -/
def look (t : FileTree) (path : String) : Except AccessError FileEntry :=
  match t.target path with
  | .error e => .error e
  | .ok (.directory _) => .ok .directory
  | .ok (.name parent name) =>
    if maxNameBytes < name.utf8ByteSize then .error .nameTooLong
    else
      match t.entry? (parent ++ [name]) with
      | none => .error .notFound
      | some (.file bytes) => if endsInSlash path then .error .notDirectory else .ok (.file bytes)
      | some .directory => .ok .directory

def isDirectory (t : FileTree) (path : String) : Bool :=
  match t.look path with
  | .ok .directory => true
  | _ => false

/-! ### Reading and writing -/

def readText (t : FileTree) (path : String) : Except AccessError String :=
  match t.look path with
  | .error e => .error e
  | .ok .directory => .error .isDirectory
  | .ok (.file bytes) =>
    match String.fromUTF8? bytes with
    | some text => .ok text
    | none => .error .notText

def makeDirectory (t : FileTree) (path : String) : Except AccessError FileTree :=
  match t.target path with
  | .error e => .error e
  | .ok (.directory _) => .error .alreadyExists
  | .ok (.name parent name) =>
    if maxNameBytes < name.utf8ByteSize then .error .nameTooLong
    else
      match t.entry? (parent ++ [name]) with
      | some _ => .error .alreadyExists
      | none => .ok (t.put (parent ++ [name]) .directory)

/-- The outcome of making a directory, where one that is there already will do. -/
def ensureDirectory (t : FileTree) (path : String) : FileTree × Except AccessError Unit :=
  match t.makeDirectory path with
  | .ok made => (made, .ok ())
  | .error e => (t, if t.isDirectory path then .ok () else .error e)

/-- Makes a directory and those above it that are missing, which come after it, the innermost
    first. -/
def ensureDirectories (t : FileTree) : List String → FileTree × Except AccessError Unit
  | [] => (t, .ok ())
  | path :: above =>
    match t.ensureDirectory path with
    | (_, .error .notFound) =>
      match t.ensureDirectories above with
      | (made, .ok ()) => made.ensureDirectory path
      | failed => failed
    | outcome => outcome

/-- Makes or replaces the bytes of a file; its directory has to exist. -/
def writeBytes (t : FileTree) (path : String) (bytes : ByteArray) :
    FileTree × Except AccessError Unit :=
  match t.target path with
  | .error e => (t, .error e)
  | .ok (.directory _) => (t, .error .isDirectory)
  | .ok (.name parent name) =>
    if endsInSlash path then (t, .error .isDirectory)
    else if maxNameBytes < name.utf8ByteSize then (t, .error .nameTooLong)
    else
      match t.entry? (parent ++ [name]) with
      | some .directory => (t, .error .isDirectory)
      | _ => (t.put (parent ++ [name]) (.file bytes), .ok ())

/-- Makes the directories above a path and then the file. -/
def writeFile (t : FileTree) (path : String) (bytes : ByteArray) :
    FileTree × Except AccessError Unit :=
  match t.ensureDirectories (directoriesAbove path).reverse with
  | (made, .ok ()) => made.writeBytes path bytes
  | failed => failed

/-- Writes a text to a path, directories included. -/
def writeText (t : FileTree) (path content : String) : FileTree × Except AccessError Unit :=
  t.writeFile path content.toUTF8

/-! ### Contents -/

/-- The entries below the working directory, each with its path from there. -/
def contents (t : FileTree) : List (String × FileEntry) :=
  t.entries.filterMap fun (place, e) =>
    let depth := t.workingDirectory.length
    if place.take depth = t.workingDirectory ∧ depth < place.length then
      some (joinPath false (place.drop depth), e)
    else none

end FileTree

end ArgProcessor
