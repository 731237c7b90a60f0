/-
  ArgProcessor/Argument/Name.lean
  ===============================
  **Names of arguments and of classes.**

  A name becomes a field, part of a method name and the key typed on the command line, so it has
  to be an identifier (`isIdentifier`).  The methods of an argument are named after its suffix,
  the name with its first character in uppercase (`accessorSuffix`); the empty name alone has
  none (`accessorSuffix_eq_error_iff`).
-/
import ArgProcessor.Unicode.Number
import ArgProcessor.Unicode.Uppercase

namespace ArgProcessor

/-! ### Identifiers -/

/-- Characters that may start an identifier: alphabetic ones, the underscore and the dollar. -/
def startsIdentifier (c : Char) : Bool := Unicode.isAlphabetic c || c == '_' || c == '$'

/-- Characters that may follow in an identifier: numbers as well. -/
def continuesIdentifier (c : Char) : Bool := Unicode.isAlphanumeric c || c == '_' || c == '$'

def isIdentifierChars : List Char → Bool
  | [] => false
  | c :: cs => startsIdentifier c && cs.all continuesIdentifier

def isIdentifier (name : String) : Bool := isIdentifierChars name.toList

theorem isIdentifier_empty : isIdentifier "" = false := rfl

/-- What may start an identifier may also follow in one. -/
theorem continues_of_starts {c : Char} (h : startsIdentifier c = true) :
    continuesIdentifier c = true := by
  simp only [startsIdentifier, continuesIdentifier, Unicode.isAlphanumeric,
    Bool.or_eq_true] at h ⊢
  rcases h with (h | h) | h
  · exact Or.inl (Or.inl (Or.inl h))
  · exact Or.inl (Or.inr h)
  · exact Or.inr h

/-- Every character of an identifier may stand inside one. -/
theorem continues_of_mem {name : String} (h : isIdentifier name = true) {c : Char}
    (hc : c ∈ name.toList) : continuesIdentifier c = true := by
  unfold isIdentifier at h
  cases hl : name.toList with
  | nil => simp [hl] at hc
  | cons d ds =>
    rw [hl] at h hc
    simp only [isIdentifierChars, Bool.and_eq_true, List.all_eq_true] at h
    rcases List.mem_cons.1 hc with rfl | hc
    · exact continues_of_starts h.1
    · exact h.2 c hc

/-! ### Accessor suffixes -/

/-- Why a name has no accessor suffix. -/
inductive NameError where
  | empty
deriving DecidableEq, Repr

def NameError.message : NameError → String
  | .empty => "argument name is empty"

/-- The name with its first character in uppercase; the rest is kept. -/
def accessorSuffix (name : String) : Except NameError String :=
  match name.toList with
  | [] => .error .empty
  | c :: cs => .ok (String.ofList (Unicode.uppercase c ++ cs))

/-- Only the empty name has no suffix. -/
theorem accessorSuffix_eq_error_iff {name : String} {e : NameError} :
    accessorSuffix name = .error e ↔ name = "" := by
  cases e
  unfold accessorSuffix
  cases h : name.toList with
  | nil => simpa using String.toList_eq_nil_iff.1 h
  | cons c cs =>
    simp only [reduceCtorEq, false_iff]
    intro hn
    simp [hn] at h

end ArgProcessor
