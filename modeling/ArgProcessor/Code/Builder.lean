/-
  ArgProcessor/Code/Builder.lean
  ==============================
  **Writing code step by step.**

  A builder holds the text written so far and the depth at which the next line will stand.
  Opening a block writes its header and goes one level deeper, closing it comes back
  (`Builder.add`).  The stages of a build are the builders after each step, at every level
  (`Builder.stages`).
-/
import ArgProcessor.Code.Basic

namespace ArgProcessor

/-- The text written so far and the current depth. -/
structure Builder where
  depth : Nat := 0
  text : String := ""
deriving DecidableEq, Repr

namespace Builder

def line (b : Builder) (text : String) : Builder :=
  { b with text := b.text ++ indented b.depth text ++ "\n" }

def blank (b : Builder) : Builder := { b with text := b.text ++ "\n" }

/-- Writes the header of a block and goes one level deeper. -/
def openBlock (b : Builder) (header : String) : Builder :=
  let written := b.line header
  { written with depth := written.depth + 1 }

/-- Comes back one level and writes the close of a block. -/
def closeBlock (b : Builder) (close : String) : Builder :=
  line { b with depth := b.depth - 1 } close

mutual

def add (b : Builder) : Code → Builder
  | .line s => b.line s
  | .blank => b.blank
  | .block header close body => (addAll (b.openBlock header) body).closeBlock close

def addAll (b : Builder) : List Code → Builder
  | [] => b
  | c :: rest => addAll (add b c) rest

end

mutual

/-- The builders after each step of writing a piece; a block is also looked at when its header
    is written. -/
def stages (b : Builder) : Code → List Builder
  | .block header close body =>
    b.openBlock header ::
      (stagesAll (b.openBlock header) body ++
        [(addAll (b.openBlock header) body).closeBlock close])
  | .line s => [b.line s]
  | .blank => [b.blank]

/-- The builders after each step of writing pieces one after the other. -/
def stagesAll (b : Builder) : List Code → List Builder
  | [] => []
  | c :: rest => stages b c ++ stagesAll (add b c) rest

end

end Builder

end ArgProcessor
