/-
  ArgProcessor/Unicode/Blank.lean
  ===============================
  **White space and trimming.**

  White space is the Unicode property White_Space (`isBlank`); zero-width spaces and the byte
  order mark are not in it.  `trim` drops the blanks at both ends of a text and keeps those
  inside.
-/
import ArgProcessor.Unicode.Ranges

namespace ArgProcessor.Unicode

/-- The code points with the property White_Space. -/
def whiteSpace : Ranges :=
  [
    (0x9, 0xD), (0x20, 0x20), (0x85, 0x85), (0xA0, 0xA0), (0x1680, 0x1680), (0x2000, 0x200A),
    (0x2028, 0x2029), (0x202F, 0x202F), (0x205F, 0x205F), (0x3000, 0x3000)
  ]

def isBlank (c : Char) : Bool := whiteSpace.contains c

def control : Ranges := [(0x0, 0x1F), (0x7F, 0x9F)]

def isControl (c : Char) : Bool := control.contains c

/-! ### Trimming -/

def trimEnd (cs : List Char) : List Char := (cs.reverse.dropWhile isBlank).reverse

def trim (cs : List Char) : List Char := trimEnd (cs.dropWhile isBlank)

theorem dropWhile_isBlank_eq_nil_iff {cs : List Char} :
    cs.dropWhile isBlank = [] ↔ ∀ c ∈ cs, isBlank c = true := by
  induction cs with
  | nil => simp
  | cons c cs ih => by_cases h : isBlank c = true <;> simp [h, ih]

end ArgProcessor.Unicode
