/-
  ArgProcessor/Text/Bytes.lean
  ============================
  **Texts measured in the bytes of their UTF-8 form.**

  Places in a text are counted in bytes.  A place that falls inside a character is no place to
  cut, so cutting gives nothing there (`cutAtByte?`).
-/

namespace ArgProcessor

/-- The length of the UTF-8 form in bytes. -/
def utf8Length : List Char → Nat
  | [] => 0
  | c :: cs => c.utf8Size + utf8Length cs

theorem utf8Length_append (cs ds : List Char) :
    utf8Length (cs ++ ds) = utf8Length cs + utf8Length ds := by
  induction cs with
  | nil => simp [utf8Length]
  | cons c cs ih => simp [utf8Length, ih, Nat.add_assoc]

/-! ### Cutting -/

/-- The parts of a text before and after its byte `n`, unless that is inside a character or
    beyond the end. -/
def cutAtByte? (n : Nat) : List Char → Option (List Char × List Char)
  | [] => if n = 0 then some ([], []) else none
  | c :: cs =>
    if n = 0 then some ([], c :: cs)
    else if n < c.utf8Size then none
    else (cutAtByte? (n - c.utf8Size) cs).map fun parts => (c :: parts.1, parts.2)

/-- The characters from the byte `first` to the byte `last`. -/
def bytesBetween? (text : List Char) (first last : Nat) : Option (List Char) := do
  let (before, _) ← cutAtByte? last text
  let (_, part) ← cutAtByte? first before
  return part

/-- The characters of a text, each with the byte at which it starts, the first one at `n`. -/
def withOffsets (n : Nat) : List Char → List (Nat × Char)
  | [] => []
  | c :: cs => (n, c) :: withOffsets (n + c.utf8Size) cs

end ArgProcessor
