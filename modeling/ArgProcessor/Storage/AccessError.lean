/-
  ArgProcessor/Storage/AccessError.lean
  =====================================
  **Why a file could not be read or written**, with the text that the system gives each cause.
-/

namespace ArgProcessor

/-- A cause for which an access to the file system fails. -/
inductive AccessError where
  | notFound
  /-- A directory cannot be made where a file stands. -/
  | alreadyExists
  /-- Something above the last part of the path is a file. -/
  | notDirectory
  | isDirectory
  /-- A part of the path, or the whole of it, is longer than the system allows. -/
  | nameTooLong
  /-- No path holds a character U+0000. -/
  | nulInPath
  /-- The bytes of the file are not the UTF-8 form of a text. -/
  | notText
  /-- Any other cause, in the words of the system. -/
  | other (text : String)
deriving DecidableEq, Repr

def AccessError.message : AccessError → String
  | .notFound => "No such file or directory (os error 2)"
  | .alreadyExists => "File exists (os error 17)"
  | .notDirectory => "Not a directory (os error 20)"
  | .isDirectory => "Is a directory (os error 21)"
  | .nameTooLong => "File name too long (os error 36)"
  | .nulInPath => "file name contained an unexpected NUL byte"
  | .notText => "stream did not contain valid UTF-8"
  | .other text => text

end ArgProcessor
