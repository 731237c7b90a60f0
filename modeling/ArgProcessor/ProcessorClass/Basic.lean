/-
  ArgProcessor/ProcessorClass/Basic.lean
  ======================================
  **The generated class.**

  The class has, in this order: the entry point, a field for each argument and the table of
  handlers, the constructor that fills the table, the setters, the getters, the method that
  dispatches the words of a command line, and the validation procedures.  A class of the known
  language starts with its imports.  The text (`ArgumentList.classText`) exists when the class
  name and the names of all arguments are identifiers; the first fault found is the answer
  otherwise.
-/
import ArgProcessor.ArgumentList.Basic
import ArgProcessor.ProcessorClass.Member

namespace ArgProcessor

def defaultClassName : String := "CmdArgProcessor"

/-- What a class is generated with, beside its arguments. -/
structure ClassOptions where
  language : String := knownLanguage
  /-- The text between the key of an argument and its value. -/
  separator : String := "="
  className : String := defaultClassName
deriving DecidableEq, Repr

namespace ClassOptions

/-! ### Parts of the class -/

/-- The imports and a blank line, for the known language. -/
def preamble (o : ClassOptions) : List Code :=
  match importsFor o.language with
  | some imports => imports.map .line ++ [.blank]
  | none => []

/-- The entry point: makes a processor and hands it the command line. -/
def entryPoint (o : ClassOptions) : Code :=
  .block "public static void main(String[] args) \x7b" "\x7d"
    [
      .line (o.className ++ " processor = new " ++ o.className ++ "();"),
      .line "processor.process(args);"
    ]

def handlerTable : Code :=
  .line "private final Map<String, Consumer<String>> handlers = new LinkedHashMap<>();"

/-- The constructor: registers the handlers. -/
def constructor (o : ClassOptions) (ms : List Member) : Code :=
  .block ("public " ++ o.className ++ "() \x7b") "\x7d" (ms.map Member.handler)

/-- The method that splits each word of the command line at the separator and calls the handler
    of its key; words without a separator and unknown keys are passed over. -/
def dispatcher (o : ClassOptions) : Code :=
  .block "public void process(String[] args) \x7b" "\x7d"
    [
      .block "for (String arg : args) \x7b" "\x7d"
        [
          .line ("String[] parts = arg.split(Pattern.quote(" ++ stringLiteral o.separator ++
            "), 2);"),
          .block "if (parts.length != 2) \x7b" "\x7d" [.line "continue;"],
          .line "Consumer<String> handler = handlers.get(parts[0]);",
          .block "if (handler == null) \x7b" "\x7d" [.line "continue;"],
          .line "handler.accept(parts[1]);"
        ]
    ]

/-! ### The whole class -/

def classBody (o : ClassOptions) (ms : List Member) : List Code :=
  [.blank, o.entryPoint, .blank] ++
    (ms.map Member.field ++ [handlerTable, .blank]) ++
    [o.constructor ms, .blank] ++
    ms.flatMap (fun m => [m.setter, .blank]) ++
    ms.flatMap (fun m => [m.getter, .blank]) ++
    [o.dispatcher, .blank] ++
    (ms.map Member.validator).intersperse .blank

def classCode (o : ClassOptions) (ms : List Member) : List Code :=
  o.preamble ++ [.block ("public class " ++ o.className ++ " \x7b") "\x7d" (o.classBody ms)]

/-- The members of a class of the given arguments; the class name is looked at first. -/
def members (o : ClassOptions) (s : ArgumentList) : Except ClassError (List Member) :=
  if isIdentifier o.className then Member.ofArguments 1 s.arguments
  else .error (.invalidClassName o.className)

end ClassOptions

def ArgumentList.classText (s : ArgumentList) (o : ClassOptions) : Except ClassError String :=
  (o.members s).map fun ms => codeText 0 (o.classCode ms)

end ArgProcessor
