/-
  ArgProcessor/Proofs/Code/Reader.lean
  ====================================
  **Reading code for its brackets and literals.**

  A reader goes over a text character by character.  It keeps the brackets that are open, the
  innermost first, and knows whether it stands in code, inside a string literal, or right after
  a backslash inside one.  A closing bracket in code has to match the innermost open one, or
  reading fails; inside a literal brackets count for nothing (`Reader.step`).

  Words leave a reader as it is (`read_word`), and so does a whole string literal, whatever text
  it stands for (`read_stringLiteral`).  A piece of a line that leads from some open brackets to
  others does so above any further ones (`Leads`), and such pieces can be put together
  (`Leads.append`).
-/
import ArgProcessor.Proofs.Unicode.WordCharacter
import ArgProcessor.Proofs.ProcessorClass.Literal

namespace ArgProcessor

/-- Where a reader of code stands. -/
inductive Place where
  | code
  | literal
  /-- Inside a literal, right after a backslash. -/
  | escape
deriving DecidableEq, Repr

/-- A reader of code: the open brackets, the innermost first, and where it stands. -/
structure Reader where
  opened : List Char := []
  place : Place := .code
deriving DecidableEq, Repr

/-- The bracket that closes an opening one. -/
def closingBracket? : Char → Option Char
  | '(' => some ')'
  | '[' => some ']'
  | '\x7b' => some '\x7d'
  | _ => none

/-- Whether a character is a closing bracket. -/
def isClosingBracket (c : Char) : Bool := c == ')' || c == ']' || c == '\x7d'

namespace Reader

/-- Reads one character of code.  A closing bracket has to match the innermost open one. -/
def stepCode (opened : List Char) (c : Char) : Option Reader :=
  if c = '"' then some ⟨opened, .literal⟩
  else if (closingBracket? c).isSome then some ⟨c :: opened, .code⟩
  else if isClosingBracket c then
    match opened with
    | [] => none
    | o :: rest => if closingBracket? o = some c then some ⟨rest, .code⟩ else none
  else some ⟨opened, .code⟩

/-- Reads one character. -/
def step (r : Reader) (c : Char) : Option Reader :=
  match r.place with
  | .code => stepCode r.opened c
  | .literal =>
    if c = '"' then some ⟨r.opened, .code⟩
    else if c = '\\' then some ⟨r.opened, .escape⟩
    else some r
  | .escape => some ⟨r.opened, .literal⟩

/-- Reads characters one after the other. -/
def read (r : Reader) : List Char → Option Reader
  | [] => some r
  | c :: cs => (r.step c).bind fun r' => read r' cs

theorem read_cons {r r' : Reader} {c : Char} (h : r.step c = some r') (cs : List Char) :
    r.read (c :: cs) = r'.read cs := by
  rw [read, h, Option.bind_some]

theorem read_append (r : Reader) (cs ds : List Char) :
    r.read (cs ++ ds) = (r.read cs).bind fun r' => r'.read ds := by
  induction cs generalizing r with
  | nil => rfl
  | cons c cs ih =>
    cases h : r.step c with
    | none => simp [read, h]
    | some r' => simpa [read, h] using ih r'

/-- Reading goes on from where it has come. -/
theorem read_append_of_eq {r r' : Reader} {cs : List Char} (h : r.read cs = some r')
    (ds : List Char) : r.read (cs ++ ds) = r'.read ds := by
  rw [read_append, h, Option.bind_some]

/-! ### Words and literals -/

theorem step_isWordCharacter {c : Char} (h : Unicode.isWordCharacter c = true)
    (opened : List Char) : step ⟨opened, .code⟩ c = some ⟨opened, .code⟩ := by
  have hne : ∀ d, Unicode.isWordCharacter d = false → c ≠ d := by
    rintro d hd rfl
    rw [hd] at h
    contradiction
  have hopen : closingBracket? c = none := by
    unfold closingBracket?
    split
    · exact absurd rfl (hne '(' rfl)
    · exact absurd rfl (hne '[' rfl)
    · exact absurd rfl (hne '\x7b' rfl)
    · rfl
  have hclose : isClosingBracket c = false := by
    simp only [isClosingBracket, Bool.or_eq_false_iff, beq_eq_false_iff_ne]
    exact ⟨⟨hne ')' rfl, hne ']' rfl⟩, hne '\x7d' rfl⟩
  simp only [step, stepCode, if_neg (hne '"' rfl), hopen, hclose]
  rfl

theorem read_word {cs : List Char} (h : ∀ c ∈ cs, Unicode.isWordCharacter c = true)
    (opened : List Char) : read ⟨opened, .code⟩ cs = some ⟨opened, .code⟩ := by
  induction cs with
  | nil => rfl
  | cons c cs ih =>
    rw [read_cons (step_isWordCharacter (h c List.mem_cons_self) opened)]
    exact ih fun d hd => h d (List.mem_cons_of_mem _ hd)

/-- Characters other than the quote and the backslash stay inside a literal. -/
theorem read_literal {cs : List Char} (h : ∀ c ∈ cs, c ≠ '"' ∧ c ≠ '\\') (opened : List Char) :
    read ⟨opened, .literal⟩ cs = some ⟨opened, .literal⟩ := by
  induction cs with
  | nil => rfl
  | cons c cs ih =>
    obtain ⟨hquote, hslash⟩ := h c List.mem_cons_self
    have hstep : step ⟨opened, .literal⟩ c = some ⟨opened, .literal⟩ := by
      simp only [step, if_neg hquote, if_neg hslash]
    rw [read_cons hstep]
    exact ih fun d hd => h d (List.mem_cons_of_mem _ hd)

theorem read_escapeChar (c : Char) (opened : List Char) :
    read ⟨opened, .literal⟩ (escapeChar c) = some ⟨opened, .literal⟩ := by
  obtain ⟨d, -, hc⟩ | ⟨-, hc⟩ | ⟨hquote, hslash, -, hc⟩ := escapeChar_cases c
  · rw [hc]
    rfl
  · -- the letter is read right after the backslash, and the digits as text of the literal
    have hdigit : ∀ i < 16, i.digitChar ≠ '"' ∧ i.digitChar ≠ '\\' := by decide
    have hdigits : ∀ d ∈ hexDigits4 c.toNat, d ≠ '"' ∧ d ≠ '\\' := by
      intro d hd
      obtain ⟨i, hi, rfl⟩ := mem_hexDigits4 hd
      exact hdigit i hi
    rw [hc]
    exact read_literal hdigits opened
  · rw [hc]
    refine read_literal ?_ opened
    intro d hd
    rw [List.mem_singleton.1 hd]
    exact ⟨hquote, hslash⟩

theorem read_escaped (cs : List Char) (opened : List Char) :
    read ⟨opened, .literal⟩ (cs.flatMap escapeChar) = some ⟨opened, .literal⟩ := by
  induction cs with
  | nil => rfl
  | cons c cs ih =>
    rw [List.flatMap_cons, read_append_of_eq (read_escapeChar c opened)]
    exact ih

/-- **A string literal is read as a whole**, whatever text it stands for. -/
theorem read_stringLiteral (text : String) (opened : List Char) :
    read ⟨opened, .code⟩ (stringLiteral text).toList = some ⟨opened, .code⟩ := by
  rw [toList_stringLiteral]
  have hopen : step ⟨opened, .code⟩ '"' = some ⟨opened, .literal⟩ := rfl
  rw [read_cons hopen, read_append_of_eq (read_escaped text.toList opened)]
  rfl

end Reader

/-! ### Pieces of one line -/

/-- A piece of one line that leads a reader from some open brackets to others, whatever else is
    open around them. -/
structure Leads (piece : String) (before after : List Char) : Prop where
  oneLine : '\n' ∉ piece.toList
  reads : ∀ outer, Reader.read ⟨before ++ outer, .code⟩ piece.toList = some ⟨after ++ outer, .code⟩

/-- A piece that is given by its characters is read by computing. -/
theorem Leads.fixed {cs before after : List Char} (hline : '\n' ∉ cs)
    (hread : ∀ outer, Reader.read ⟨before ++ outer, .code⟩ cs = some ⟨after ++ outer, .code⟩) :
    Leads (String.ofList cs) before after where
  oneLine := by
    rw [String.toList_ofList]
    exact hline
  reads outer := by
    rw [String.toList_ofList]
    exact hread outer

theorem Leads.append {p q : String} {a b c : List Char} (hp : Leads p a b) (hq : Leads q b c) :
    Leads (p ++ q) a c where
  oneLine := by
    rw [String.toList_append, List.mem_append, not_or]
    exact ⟨hp.oneLine, hq.oneLine⟩
  reads outer := by
    rw [String.toList_append, Reader.read_append_of_eq (hp.reads outer)]
    exact hq.reads outer

theorem Leads.word {w : String} (h : ∀ c ∈ w.toList, Unicode.isWordCharacter c = true)
    (a : List Char) : Leads w a a where
  oneLine hmem := by
    have := h _ hmem
    contradiction
  reads _ := Reader.read_word h _

theorem Leads.stringLiteral (text : String) (a : List Char) :
    Leads (stringLiteral text) a a where
  oneLine := newline_not_mem_stringLiteral text
  reads _ := Reader.read_stringLiteral text _

end ArgProcessor
