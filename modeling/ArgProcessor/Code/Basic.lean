/-
  ArgProcessor/Code/Basic.lean
  ============================
  **Code as a tree of lines, blank lines and blocks.**

  The lines of a tree depend on the depth at which it stands: a line is moved in by four spaces
  for each level, a blank line is left empty, and the body of a block stands one level deeper
  than its header and its close (`Code.lines`).  The lines of a sequence are the lines of its
  members one after the other (`linesAll_append`), and its text is those lines, each ended by a
  line feed (`codeText`).
-/
import ArgProcessor.Text.Lines

namespace ArgProcessor

inductive Code where
  | line (text : String)
  | blank
  /-- A body one level deeper, between a header line and a closing line. -/
  | block (header close : String) (body : List Code)

/-- The spaces before a line at a depth. -/
def indentation (depth : Nat) : String := String.ofList (List.replicate (4 * depth) ' ')

def indented (depth : Nat) (text : String) : String := indentation depth ++ text

namespace Code

mutual

def lines (depth : Nat) : Code → List String
  | .line s => [indented depth s]
  | .blank => [""]
  | .block header close body =>
    indented depth header :: (linesAll (depth + 1) body ++ [indented depth close])

def linesAll (depth : Nat) : List Code → List String
  | [] => []
  | c :: rest => lines depth c ++ linesAll depth rest

end

@[simp] theorem linesAll_nil (depth : Nat) : linesAll depth [] = [] := by rw [linesAll]

@[simp] theorem linesAll_cons (depth : Nat) (c : Code) (rest : List Code) :
    linesAll depth (c :: rest) = lines depth c ++ linesAll depth rest := by rw [linesAll]

/-- The lines of a sequence are those of its members, one after the other. -/
theorem linesAll_eq_flatMap (depth : Nat) (cs : List Code) :
    linesAll depth cs = cs.flatMap (lines depth) := by
  induction cs with
  | nil => simp
  | cons c rest ih => simp [ih]

theorem linesAll_append (depth : Nat) (cs ds : List Code) :
    linesAll depth (cs ++ ds) = linesAll depth cs ++ linesAll depth ds := by
  simp [linesAll_eq_flatMap]

end Code

def codeText (depth : Nat) (cs : List Code) : String := unlines (Code.linesAll depth cs)

theorem codeText_append (depth : Nat) (cs ds : List Code) :
    codeText depth (cs ++ ds) = codeText depth cs ++ codeText depth ds := by
  simp [codeText, Code.linesAll_append, unlines_append]

end ArgProcessor
