/-
  ArgProcessor/Text/Hexadecimal.lean
  ==================================
  **Hexadecimal digits**, in lowercase, the most significant first.
-/

namespace ArgProcessor

/-- The last four hexadecimal digits of a number. -/
def hexDigits4 (n : Nat) : List Char :=
  [Nat.digitChar (n / 4096 % 16), Nat.digitChar (n / 256 % 16), Nat.digitChar (n / 16 % 16),
    Nat.digitChar (n % 16)]

def hexDigits (n : Nat) : List Char := Nat.toDigits 16 n

end ArgProcessor
