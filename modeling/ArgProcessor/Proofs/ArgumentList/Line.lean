/-
  ArgProcessor/Proofs/ArgumentList/Line.lean
  ==========================================
  **The lines of a text and their places.**

  The rows of a text are its pieces between line feeds, each without one carriage return at its
  end.  A located line has such a row, and it starts after all earlier pieces and their line feeds
  (`Line.exists_locate_eq_append_cons_iff`).
-/
import ArgProcessor.ArgumentList.Line
import ArgProcessor.Proofs.Text.Pieces

namespace ArgProcessor

/-- A piece without one carriage return at its end. -/
def rowOfPiece (piece : List Char) : List Char :=
  if piece.getLast? = some '\r' then piece.dropLast else piece

/-- What stands between the line feeds of a text. -/
def pieces (content : String) : List (List Char) := content.toList.splitOn '\n'

/-- The rows of a text, its header first. -/
def rowTexts (content : String) : List (List Char) := (pieces content).map rowOfPiece

/-! ### Rows of pieces -/

theorem dropReturn_eq (piece : List Char) : dropReturn piece = rowOfPiece piece := by
  unfold rowOfPiece
  induction piece with
  | nil => rfl
  | cons c cs ih =>
    cases cs with
    | nil =>
      by_cases hc : c = '\r'
      · simp [dropReturn, hc]
      · simp [dropReturn, hc]
    | cons d cs =>
      rw [dropReturn, ih, List.getLast?_cons_cons, List.dropLast_cons_cons]
      · split <;> rfl
      · simp

theorem rowOfPiece_append (piece : List Char) : ∃ rest, piece = rowOfPiece piece ++ rest := by
  unfold rowOfPiece
  split
  · next h =>
    obtain ⟨cs, rfl⟩ := List.getLast?_eq_some_iff.1 h
    exact ⟨['\r'], by rw [List.dropLast_concat]⟩
  · exact ⟨[], (List.append_nil piece).symm⟩

theorem utf8Length_closed_cons (p : List Char) (ps : List (List Char)) :
    utf8Length (closed '\n' (p :: ps)) = utf8Length p + 1 + utf8Length (closed '\n' ps) := by
  rw [closed_cons, utf8Length_append, utf8Length, Nat.add_assoc]
  rfl

namespace Line

/-! ### Located lines -/

theorem map_text_locate (number offset : Nat) (ps : List (List Char)) :
    (locate number offset ps).map (·.text) = ps.map rowOfPiece := by
  induction ps generalizing number offset with
  | nil => rfl
  | cons p ps ih => rw [locate, List.map_cons, List.map_cons, ih, dropReturn_eq]

theorem forall_mem_locate_iff {number offset : Nat} {ps : List (List Char)}
    {good : List Char → Prop} :
    (∀ l ∈ locate number offset ps, good l.text) ↔ ∀ p ∈ ps, good (rowOfPiece p) := by
  rw [← List.forall_mem_map, map_text_locate, List.forall_mem_map]

theorem locate_append (number offset : Nat) (ps qs : List (List Char)) :
    locate number offset (ps ++ qs) =
      locate number offset ps ++
        locate (number + ps.length) (offset + utf8Length (closed '\n' ps)) qs := by
  induction ps generalizing number offset with
  | nil => rfl
  | cons p ps ih =>
    rw [List.cons_append, locate, locate, ih, List.cons_append, utf8Length_closed_cons,
      List.length_cons, Nat.add_assoc number, Nat.add_comm 1, Nat.add_assoc offset,
      Nat.add_assoc offset]

theorem length_locate (number offset : Nat) (ps : List (List Char)) :
    (locate number offset ps).length = ps.length := by
  rw [← List.length_map (·.text), map_text_locate, List.length_map]

/-- A line comes after the lines of the earlier pieces, and starts where their bytes end. -/
theorem exists_locate_eq_append_cons_iff {number offset : Nat} {ps : List (List Char)}
    {before : List Line} {l : Line} :
    (∃ after, locate number offset ps = before ++ l :: after) ↔
      ∃ qs p rest, ps = qs ++ p :: rest ∧ before = locate number offset qs ∧
        l = ⟨number + qs.length, offset + utf8Length (closed '\n' qs), rowOfPiece p⟩ := by
  constructor
  · rintro ⟨after, h⟩
    have hlength := congrArg List.length h
    rw [length_locate, List.length_append] at hlength
    obtain ⟨qs, rest, rfl, hqs⟩ : ∃ qs rest, ps = qs ++ rest ∧ qs.length = before.length :=
      ⟨ps.take before.length, ps.drop before.length, (List.take_append_drop _ _).symm,
        List.length_take_of_le (by omega)⟩
    rw [locate_append] at h
    obtain ⟨hbefore, htail⟩ := List.append_inj h (by rw [length_locate, hqs])
    cases rest with
    | nil => cases htail
    | cons p rest =>
      obtain ⟨hl, -⟩ := List.cons.inj htail
      refine ⟨qs, p, rest, rfl, hbefore.symm, ?_⟩
      rw [← hl, dropReturn_eq]
  · rintro ⟨qs, p, rest, rfl, rfl, rfl⟩
    rw [locate_append, locate, dropReturn_eq]
    exact ⟨_, rfl⟩

end Line

end ArgProcessor
