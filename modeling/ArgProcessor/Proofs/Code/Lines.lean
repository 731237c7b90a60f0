/-
  ArgProcessor/Proofs/Code/Lines.lean
  ===================================
  **Which lines a piece of code has, and how many.**

  The number does not depend on the depth for the pieces that a class is made of, and pieces with
  a blank line between them have one line more for each gap (`length_linesAll_intersperse`).
-/
import ArgProcessor.Code.Basic
import ArgProcessor.Proofs.Text.Pieces

namespace ArgProcessor.Code

@[simp] theorem lines_line (depth : Nat) (text : String) :
    lines depth (.line text) = [indented depth text] := by rw [lines]

@[simp] theorem lines_blank (depth : Nat) : lines depth .blank = [""] := by rw [lines]

@[simp] theorem lines_block (depth : Nat) (header close : String) (body : List Code) :
    lines depth (.block header close body) =
      indented depth header :: (linesAll (depth + 1) body ++ [indented depth close]) := by
  rw [lines]

theorem mem_intersperse {c sep : Code} {cs : List Code} (h : c ∈ cs.intersperse sep) :
    c = sep ∨ c ∈ cs := by
  cases cs with
  | nil => exact Or.inr h
  | cons d cs =>
    rw [intersperse_cons, List.mem_cons, List.mem_flatMap] at h
    rcases h with rfl | ⟨e, he, hc⟩
    · exact Or.inr List.mem_cons_self
    · rw [List.mem_cons, List.mem_singleton] at hc
      rcases hc with rfl | rfl
      · exact Or.inl rfl
      · exact Or.inr (List.mem_cons_of_mem _ he)

theorem flatMap_intersperse {β : Type} {sep : Code} {f : Code → List β} (hsep : f sep = [])
    (cs : List Code) : (cs.intersperse sep).flatMap f = cs.flatMap f := by
  cases cs with
  | nil => rfl
  | cons c cs =>
    rw [intersperse_cons, List.flatMap_cons, List.flatMap_cons, List.flatMap_assoc]
    simp [hsep]

theorem linesAll_intersperse_blank (depth : Nat) (cs : List Code) :
    linesAll depth (cs.intersperse .blank) = [""].intercalate (cs.map (lines depth)) := by
  cases cs with
  | nil => rfl
  | cons c cs =>
    rw [intersperse_cons, List.map_cons, intercalate_cons, linesAll_cons, linesAll_eq_flatMap,
      List.flatMap_assoc, List.flatMap_map]
    simp

/-! ### Pieces of the same height -/

section Height

variable {α : Type} (depth n : Nat) (l : List α)

theorem length_linesAll_flatMap {f : α → List Code} (h : ∀ a, (linesAll depth (f a)).length = n) :
    (linesAll depth (l.flatMap f)).length = n * l.length := by
  induction l with
  | nil => simp
  | cons a l ih =>
    rw [List.flatMap_cons, linesAll_append, List.length_append, ih, h, List.length_cons,
      Nat.mul_succ, Nat.add_comm]

theorem length_linesAll_map {f : α → Code} (h : ∀ a, ((f a).lines depth).length = n) :
    (linesAll depth (l.map f)).length = n * l.length := by
  rw [List.map_eq_flatMap]
  exact length_linesAll_flatMap depth n l fun a => by simp [h]

end Height

theorem length_linesAll_intersperse (depth : Nat) (cs : List Code) :
    (linesAll depth (cs.intersperse .blank)).length =
      (linesAll depth cs).length + (cs.length - 1) := by
  induction cs with
  | nil => rfl
  | cons d cs ih =>
    cases cs with
    | nil => rfl
    | cons e cs =>
      rw [List.intersperse_cons_cons, linesAll_cons, linesAll_cons, List.length_append,
        List.length_append, ih, linesAll_cons depth d, List.length_append, lines_blank]
      simp only [List.length_cons, List.length_nil]
      omega

end ArgProcessor.Code
