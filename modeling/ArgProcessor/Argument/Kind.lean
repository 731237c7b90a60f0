/-
  ArgProcessor/Argument/Kind.lean
  ===============================
  **Kinds of arguments.**

  The type column of an argument list names a kind.  Blanks around the token and the case of its
  ASCII letters do not count; a token that names no kind gives `other`, so that every token has
  a kind and the value is kept as it is.
-/
import ArgProcessor.Unicode.Blank

namespace ArgProcessor

/-- What the value of an argument stands for. -/
inductive Kind where
  | string
  | file
  | path
  | flag
  | other
deriving DecidableEq, Repr

/-- The kind that a token of the type column names. -/
def Kind.ofToken (token : String) : Kind :=
  match String.ofList ((Unicode.trim token.toList).map Char.toLower) with
  | "string" => .string
  | "file" => .file
  | "path" => .path
  | "flag" => .flag
  | _ => .other

/-- Whether the value names something in the file system. -/
def Kind.isFilesystem : Kind → Bool
  | .file | .path => true
  | _ => false

/-- Whether the token named no kind. -/
def Kind.isFallback : Kind → Bool
  | .other => true
  | _ => false

end ArgProcessor
