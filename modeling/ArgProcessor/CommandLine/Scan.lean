/-
  ArgProcessor/CommandLine/Scan.lean
  ==================================
  **Scanning the words of one command.**

  Words are taken from left to right (`CommandRule.scan`).  A word that starts with two dashes is
  an option, with a value after the first equals sign; one dash groups single letters; two dashes
  alone make all words after them operands.  An option without its value waits for the next word.
  What has been collected for an option is accepted only when the next option or operand comes,
  or at the end (`ScanState.settle`), so that a word that is no option at all is reported before
  a value that is no good.
-/
import ArgProcessor.CommandLine.Grammar
import ArgProcessor.CommandLine.Usage

namespace ArgProcessor

/-! ### Words -/

/-- What a word looks like. -/
inductive Word where
  /-- Two dashes alone. -/
  | escape
  /-- Two dashes and a name, with the value after an equals sign. -/
  | long (name : String) (value : Option String)
  /-- One dash and letters. -/
  | letters (cs : List Char)
  /-- Anything else. -/
  | plain
deriving DecidableEq, Repr

def Word.ofChars : List Char → Word
  | ['-', '-'] => .escape
  | '-' :: '-' :: cs =>
    let name := String.ofList (cs.takeWhile (· ≠ '='))
    match cs.dropWhile (· ≠ '=') with
    | [] => .long name none
    | _ :: value => .long name (some (String.ofList value))
  | '-' :: c :: cs => .letters (c :: cs)
  | _ => .plain

/-! ### What has been scanned -/

/-- A value that has been collected and not yet accepted. -/
inductive PendingValue where
  | option (rule : OptionRule) (value : Option String)
  | operand (rule : OperandRule) (value : String)
deriving DecidableEq, Repr

/-- Why scanning ends early. -/
inductive ScanStop where
  | usage (error : UsageError)
  | help
  | version
deriving DecidableEq, Repr

structure ScanState where
  /-- Accepted options and operands by name, each with its value. -/
  found : List (String × String) := []
  pending : Option PendingValue := none
  /-- The option that waits for the next word. -/
  waiting : Option OptionRule := none
  /-- Whether an operand has been met. -/
  operandMet : Bool := false
  /-- Whether two dashes alone have been met. -/
  trailing : Bool := false
deriving DecidableEq, Repr

namespace ScanState

/-- Accepts an option: once only, with a value if it takes one. -/
def accept (s : ScanState) (o : OptionRule) (value : Option String) :
    Except UsageError ScanState :=
  match o.value, value with
  | some _, none => .error (.valueRequired o.label [])
  | rule, value =>
    if (s.found.lookup o.long).isSome then .error (.repeated o.label)
    else if value == some "" && rule.any (!·.mayBeEmpty) then .error (.valueRequired o.label [])
    else .ok { s with found := s.found ++ [(o.long, value.getD "")] }

/-- Accepts an operand if it is one of the choices. -/
def acceptOperand (s : ScanState) (o : OperandRule) (value : String) :
    Except UsageError ScanState :=
  if o.choices.contains value then .ok { s with found := s.found ++ [(o.name, value)] }
  else if value.isEmpty then .error (.valueRequired o.label o.choices)
  else .error (.invalidValue value o.label o.choices)

/-- Accepts what has been collected. -/
def settle (s : ScanState) : Except UsageError ScanState :=
  let settled := { s with pending := none }
  match s.pending with
  | none => .ok s
  | some (.option o value) => settled.accept o value
  | some (.operand o value) => settled.acceptOperand o value

/-- Meets an option together with its value, or one that takes none. -/
def meet (s : ScanState) (o : OptionRule) (value : Option String) : Except ScanStop ScanState :=
  match s.settle with
  | .error e => .error (.usage e)
  | .ok settled =>
    match o.effect with
    | .help => .error .help
    | .version => .error .version
    | .keep => (settled.accept o value).mapError .usage

end ScanState

namespace CommandRule

/-- Meets the letters of a group one after the other. -/
def scanLetters (c : CommandRule) (s : ScanState) : List Char → Except ScanStop ScanState
  | [] => .ok s
  | letter :: rest =>
    match c.letter? letter with
    | none => .error (.usage (.unexpectedArgument (String.ofList ['-', letter])))
    | some o =>
      match s.meet o none with
      | .error stop => .error stop
      | .ok s => c.scanLetters s rest

def scanLong (c : CommandRule) (s : ScanState) (name : String) (value : Option String) :
    Except ScanStop ScanState :=
  match c.long? name with
  | none => .error (.usage (.unexpectedArgument ("--" ++ name)))
  | some o =>
    match o.value, value with
    | none, some v => .error (.usage (.unexpectedValue v o.label))
    | none, none => s.meet o none
    | some _, some v => s.meet o (some v)
    | some _, none =>
      match s.settle with
      | .error e => .error (.usage e)
      | .ok s => .ok { s with pending := some (.option o none), waiting := some o }

/-- The mistake of a word that no operand is left for. -/
def strayWord (c : CommandRule) (s : ScanState) (word : String) : UsageError :=
  if c.subcommands.isEmpty || s.trailing && c.subcommands.contains word then
    .unexpectedArgument word
  else .unrecognizedSubcommand word

def scanOperand (c : CommandRule) (s : ScanState) (word : String) : Except ScanStop ScanState :=
  match c.operand, s.operandMet with
  | some o, false =>
    match s.settle with
    | .error e => .error (.usage e)
    | .ok s => .ok { s with pending := some (.operand o word), operandMet := true }
  | _, _ => .error (.usage (c.strayWord s word))

def scanWord (c : CommandRule) (s : ScanState) (word : String) : Except ScanStop ScanState :=
  let given (o : OptionRule) : Except ScanStop ScanState :=
    .ok { s with pending := some (.option o (some word)), waiting := none }
  match s.waiting, Word.ofChars word.toList with
  | some o, .plain => given o
  | none, .plain => c.scanOperand s word
  | waiting, look =>
    match waiting.filter fun o => o.value.any (·.mayLookLikeOption) with
    | some o => given o
    | none =>
      let s' := { s with waiting := none }
      match look with
      | .long name value => c.scanLong s' name value
      | .letters cs => c.scanLetters s' cs
      | _ => .ok { s with trailing := true }

/-- Scans words up to a subcommand, which is given back with the words after it. -/
def scan (c : CommandRule) (s : ScanState) :
    List String → Except ScanStop (ScanState × Option (String × List String))
  | [] =>
    match s.settle with
    | .error e => .error (.usage e)
    | .ok s => .ok (s, none)
  | word :: rest =>
    if !s.trailing && c.subcommands.contains word then .ok (s, some (word, rest))
    else
      match if s.trailing then c.scanOperand s word else c.scanWord s word with
      | .error stop => .error stop
      | .ok s => c.scan s rest

/-- The required options and operands that a scan has not met, as messages name them. -/
def missing (c : CommandRule) (s : ScanState) : List String :=
  (c.options.filter fun o => o.required && (s.found.lookup o.long).isNone).map (·.label) ++
    ((c.operand.filter fun o => (s.found.lookup o.name).isNone).map (·.label)).toList

end CommandRule

end ArgProcessor
