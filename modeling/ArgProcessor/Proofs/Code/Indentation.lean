/-
  ArgProcessor/Proofs/Code/Indentation.lean
  =========================================
  **Code that stands deeper has the same lines, moved in.**

  As long as no line of a tree is written without a text, its empty lines are its blank ones.  They
  stay empty at every depth, and all other lines get four more spaces for each level
  (`Code.Filled.lines_add`).
-/
import ArgProcessor.Proofs.Code.Layout
import ArgProcessor.Proofs.Code.Lines
import Mathlib.Data.List.Basic

namespace ArgProcessor

/-- Moves a line in by some levels; an empty line stays empty. -/
def moveIn (levels : Nat) (line : String) : String := if line = "" then "" else indented levels line

theorem indented_add (depth levels : Nat) (text : String) :
    indented (depth + levels) text = indented levels (indented depth text) := by
  have hspaces : List.replicate (4 * (depth + levels)) ' ' =
      List.replicate (4 * levels) ' ' ++ List.replicate (4 * depth) ' ' := by
    rw [List.replicate_append_replicate]
    congr 1
    omega
  apply String.toList_inj.1
  simp only [toList_indented, hspaces, List.append_assoc]

theorem indented_ne_empty {text : String} (h : text ≠ "") (depth : Nat) :
    indented depth text ≠ "" := by
  intro hempty
  apply h
  have hchars := congrArg String.toList hempty
  rw [toList_indented, String.toList_empty, List.append_eq_nil_iff] at hchars
  exact String.toList_eq_nil_iff.1 hchars.2

theorem moveIn_indented {text : String} (h : text ≠ "") (depth levels : Nat) :
    moveIn levels (indented depth text) = indented (depth + levels) text := by
  rw [moveIn, if_neg (indented_ne_empty h depth), indented_add]

namespace Code

/-- Code without empty texts: only its blank lines are empty. -/
inductive Filled : Code → Prop where
  | line {text : String} (textFilled : text ≠ "") : Filled (.line text)
  | blank : Filled .blank
  | block {header close : String} {body : List Code} (headerFilled : header ≠ "")
      (closeFilled : close ≠ "") (bodyFilled : ∀ c ∈ body, Filled c) :
      Filled (.block header close body)

/-- **The lines of code at a greater depth are those at a smaller one, moved in.** -/
theorem Filled.lines_add {c : Code} (h : c.Filled) (depth levels : Nat) :
    c.lines (depth + levels) = (c.lines depth).map (moveIn levels) := by
  induction h generalizing depth with
  | line textFilled => simp [moveIn_indented textFilled]
  | blank => simp [moveIn]
  | @block header close body headerFilled closeFilled _ ih =>
    have hbody : linesAll (depth + levels + 1) body =
        (linesAll (depth + 1) body).map (moveIn levels) := by
      rw [Nat.add_right_comm, linesAll_eq_flatMap, linesAll_eq_flatMap, List.map_flatMap]
      exact List.flatMap_congr fun c hc => ih c hc (depth + 1)
    simp [hbody, moveIn_indented headerFilled, moveIn_indented closeFilled]

theorem linesAll_add {cs : List Code} (h : ∀ c ∈ cs, c.Filled) (depth levels : Nat) :
    linesAll (depth + levels) cs = (linesAll depth cs).map (moveIn levels) := by
  rw [linesAll_eq_flatMap, linesAll_eq_flatMap, List.map_flatMap]
  exact List.flatMap_congr fun c hc => (h c hc).lines_add depth levels

theorem WellNested.filled {c : Code} (h : c.WellNested) : c.Filled := by
  have hplain : ∀ {text : String}, StartsPlainly text → text ≠ "" := by
    rintro _ ⟨c, hhead, -⟩ rfl
    simp at hhead
  induction h with
  | line _ starts => exact .line (hplain starts)
  | blank => exact .blank
  | block _ headerStarts _ _ closeStarts _ ih =>
    refine .block (hplain headerStarts) ?_ ih
    rintro rfl
    simp at closeStarts

end Code

end ArgProcessor
