/-
  ArgProcessor/Proofs/ArgumentList/Acceptance.lean
  ================================================
  **Which texts are argument lists, and what they declare.**

  A text is read exactly when each of its rows after the header is blank or declares an argument.
  What it then declares is the last argument of each name, in the order in which the names first
  occur (`read_declares`).
-/
import ArgProcessor.ArgumentList.Reading
import ArgProcessor.Proofs.ArgumentList.Declarations
import ArgProcessor.Proofs.ArgumentList.Grammar

namespace ArgProcessor

theorem Line.map_text_ofText (content : String) :
    (ofText content.toList).tail.map (·.text) = (rowTexts content).tail := by
  rw [List.map_tail, ofText, map_text_locate]
  rfl

namespace ArgumentList

theorem read_eq_ok_iff {content name : String} {s : ArgumentList} :
    read content name = .ok s ↔
      ∃ rows, rowsOfLines (Line.ofText content.toList).tail = .ok rows ∧ ofRows rows = s := by
  unfold read
  cases rowsOfLines (Line.ofText content.toList).tail <;> simp

theorem arguments_ofRows (rows : List Row) :
    (ofRows rows).arguments = lastDeclarations (rows.map (·.argument)) :=
  arguments_ofArguments _

theorem filter_not_isBlankRow (ls : List Line) :
    (ls.map (·.text)).filter (¬IsBlankRow ·) = (ls.filter fun l => !l.isBlank).map (·.text) := by
  have hblank : (fun row => decide (¬IsBlankRow row)) ∘ (fun l : Line => l.text) =
      fun l => !l.isBlank := by
    funext l
    have hl : decide (IsBlankRow l.text) = l.isBlank := by
      rw [Bool.eq_iff_iff, decide_eq_true_iff, Line.isBlank_iff]
    rw [Function.comp_apply, decide_not, hl]
  rw [List.filter_map, hblank]

/-- The rows that are not blank declare the arguments of the rows that were read. -/
theorem forall₂_declares {ls : List Line} {rows : List Row} (h : rowsOfLines ls = .ok rows) :
    List.Forall₂ Declares ((ls.map (·.text)).filter (¬IsBlankRow ·)) (rows.map (·.argument)) := by
  rw [filter_not_isBlankRow, List.forall₂_map_left_iff, List.forall₂_map_right_iff]
  exact (rowsOfLines_eq_ok_iff.1 h).imp fun _ _ hl => hl.2

/-- **A text is read exactly when all its rows are good, and then each name has the argument last
    declared under it**, at the place of the first. -/
theorem read_declares (content name : String) :
    ((∃ s, read content name = .ok s) ↔ ∀ row ∈ (rowTexts content).tail, IsGoodRow row) ∧
      ∀ s, read content name = .ok s →
        ∃ declared,
          List.Forall₂ Declares ((rowTexts content).tail.filter (¬IsBlankRow ·)) declared ∧
            s.arguments = lastDeclarations declared := by
  rw [← Line.map_text_ofText]
  constructor
  · rw [List.forall_mem_map, ← exists_rowsOfLines_eq_ok_iff]
    constructor
    · rintro ⟨s, hs⟩
      obtain ⟨rows, hrows, -⟩ := read_eq_ok_iff.1 hs
      exact ⟨rows, hrows⟩
    · rintro ⟨rows, hrows⟩
      exact ⟨ofRows rows, read_eq_ok_iff.2 ⟨rows, hrows, rfl⟩⟩
  · intro s hs
    obtain ⟨rows, hrows, rfl⟩ := read_eq_ok_iff.1 hs
    exact ⟨_, forall₂_declares hrows, arguments_ofRows rows⟩

/-- A name that is declared twice keeps its place and takes the second declaration. -/
theorem read_declares_redeclared :
    ∃ content s,
      content = "\n a ,,Yes,,,\r\n \nb,,,,,\na,x,,yes,, Yes" ∧
        read content = .ok s ∧
          s.arguments =
            [⟨"a", "x", false, false, false, true⟩, ⟨"b", "", false, false, false, false⟩] ∧
            ∃ declared,
              List.Forall₂ Declares ((rowTexts content).tail.filter (¬IsBlankRow ·)) declared ∧
                s.arguments = lastDeclarations declared := by
  have hread : read "\n a ,,Yes,,,\r\n \nb,,,,,\na,x,,yes,, Yes" = .ok (ofRows
      [⟨2, ⟨"a", "", true, false, false, false⟩⟩, ⟨4, ⟨"b", "", false, false, false, false⟩⟩,
        ⟨5, ⟨"a", "x", false, false, false, true⟩⟩]) := rfl
  exact ⟨_, _, rfl, hread, rfl, (read_declares _ _).2 _ hread⟩

end ArgumentList

end ArgProcessor
