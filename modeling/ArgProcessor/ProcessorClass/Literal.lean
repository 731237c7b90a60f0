/-
  ArgProcessor/ProcessorClass/Literal.lean
  ========================================
  **String literals of the generated class.**

  A text is written between double quotes.  The quote and the backslash are escaped, the common
  control characters have short escapes, and every other control character is written by its
  code point in four hexadecimal digits (`escapeChar`), so that no literal holds a control
  character or ends early.
-/
import ArgProcessor.Text.Hexadecimal
import ArgProcessor.Unicode.Blank

namespace ArgProcessor

def escapeChar (c : Char) : List Char :=
  if c = '"' then ['\\', '"']
  else if c = '\\' then ['\\', '\\']
  else if c = '\n' then ['\\', 'n']
  else if c = '\r' then ['\\', 'r']
  else if c = '\t' then ['\\', 't']
  else if Unicode.isControl c then '\\' :: 'u' :: hexDigits4 c.toNat
  else [c]

def literalChars (cs : List Char) : List Char := '"' :: (cs.flatMap escapeChar ++ ['"'])

def stringLiteral (text : String) : String := String.ofList (literalChars text.toList)

theorem toList_stringLiteral (text : String) :
    (stringLiteral text).toList = '"' :: (text.toList.flatMap escapeChar ++ ['"']) := by
  simp [stringLiteral, literalChars]

end ArgProcessor
