/-
  ArgProcessor/ProcessorClass/Language.lean
  =========================================
  **The language of the generated class**: its tag, its types and the imports of the class.

  One language is known.  A class asked for under another tag is generated all the same, only
  without imports (`importsFor`).
-/
import ArgProcessor.Argument.Kind

namespace ArgProcessor

/-- The tag of the known language, which is also the extension of its files. -/
def knownLanguage : String := "java"

/-- Whether a tag names the known language; blanks around it and the case of its ASCII letters
    do not count. -/
def isKnownLanguage (tag : String) : Bool :=
  String.ofList ((Unicode.trim tag.toList).map Char.toLower) == knownLanguage

def classImports : List String :=
  [
    "import java.io.File;",
    "import java.nio.file.Path;",
    "import java.nio.file.Paths;",
    "import java.util.LinkedHashMap;",
    "import java.util.Map;",
    "import java.util.Objects;",
    "import java.util.function.Consumer;",
    "import java.util.regex.Pattern;"
  ]

/-- The imports for a language tag; an unknown language has none. -/
def importsFor (tag : String) : Option (List String) :=
  if isKnownLanguage tag then some classImports else none

/-! ### Types of values -/

/-- The type of a field that holds a value of the kind. -/
def Kind.typeName : Kind → String
  | .string => "String"
  | .file => "File"
  | .path => "Path"
  | .flag => "Boolean"
  | .other => "Object"

/-- The expression that makes a value of the kind from an expression for its text. -/
def Kind.conversion (value : String) : Kind → String
  | .string | .other => value
  | .file => "new File(" ++ value ++ ")"
  | .path => "Paths.get(" ++ value ++ ")"
  | .flag => value ++ ".isEmpty() ? null : Boolean.valueOf(" ++ value ++ ")"

end ArgProcessor
