/-
  ArgProcessor/Text/Lines.lean
  ============================
  **Texts made of lines.**

  A list of lines becomes a text by putting a line feed after each of them (`unlines`), the last
  one included; the text of two lists is the text of the first and then that of the second
  (`unlines_append`).
-/

namespace ArgProcessor

/-- Lines one below the other, each ended by a line feed. -/
def unlines (ls : List String) : String := String.ofList (ls.flatMap fun l => l.toList ++ ['\n'])

@[simp] theorem unlines_nil : unlines [] = "" := rfl

theorem toList_unlines (ls : List String) :
    (unlines ls).toList = ls.flatMap fun l => l.toList ++ ['\n'] := by
  simp [unlines]

theorem unlines_append (ls ms : List String) : unlines (ls ++ ms) = unlines ls ++ unlines ms := by
  simp [unlines, String.ofList_append]

theorem unlines_cons (l : String) (ls : List String) :
    unlines (l :: ls) = l ++ "\n" ++ unlines ls := by
  apply String.toList_inj.1
  simp [toList_unlines]

end ArgProcessor
