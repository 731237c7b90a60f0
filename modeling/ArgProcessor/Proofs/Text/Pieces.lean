/-
  ArgProcessor/Proofs/Text/Pieces.lean
  ====================================
  **The pieces of a text between the occurrences of a separator.**

  There is one piece more than there are separators (`length_splitOn`), the first piece ends at
  the first separator (`head?_splitOn`), and what comes before a piece is the earlier pieces with
  a separator after each of them (`eq_append_of_splitOn`).  Joined again, each piece but the first
  has a separator before it (`intersperse_cons`, `intercalate_cons`).
-/

namespace ArgProcessor

variable {a : Char} {text : List Char}

theorem length_splitOn (a : Char) (text : List Char) :
    (text.splitOn a).length = text.count a + 1 := by
  induction text with
  | nil => rfl
  | cons c cs ih =>
    rw [List.splitOn_cons_eq_if_modifyHead, List.count_cons]
    split
    · rw [List.length_cons, ih]
    · rw [List.length_modifyHead, ih, Nat.add_zero]

theorem head?_splitOn (a : Char) (text : List Char) :
    (text.splitOn a).head? = some (text.takeWhile (· != a)) := by
  induction text with
  | nil => rfl
  | cons c cs ih =>
    rw [List.splitOn_cons_eq_if_modifyHead, List.takeWhile_cons]
    by_cases hc : c = a
    · simp [hc]
    · simp [hc, ih]

theorem not_mem_of_mem_splitOn {piece : List Char} (h : piece ∈ text.splitOn a) :
    a ∉ piece := by
  induction text generalizing piece with
  | nil =>
    rw [List.splitOn_nil, List.mem_singleton] at h
    simp [h]
  | cons c cs ih =>
    obtain ⟨p, ps, hsplit⟩ := List.exists_cons_of_ne_nil (List.splitOn_ne_nil a cs)
    rw [List.splitOn_cons_eq_if_modifyHead, hsplit] at h
    rw [hsplit] at ih
    split at h
    · rcases List.mem_cons.1 h with rfl | h
      · exact List.not_mem_nil
      · exact ih h
    · next hc =>
      rcases List.mem_cons.1 h with rfl | h
      · -- the first piece grows by a character other than the separator
        have hne : a ≠ c := fun e => hc (beq_iff_eq.2 e.symm)
        have hp : a ∉ p := ih List.mem_cons_self
        simp [hne, hp]
      · exact ih (List.mem_cons_of_mem _ h)

/-! ### Joining -/

theorem intersperse_cons {α : Type} (sep x : α) (xs : List α) :
    (x :: xs).intersperse sep = x :: xs.flatMap fun y => [sep, y] := by
  induction xs generalizing x with
  | nil => rfl
  | cons y ys ih =>
    rw [List.intersperse_cons_cons, ih, List.flatMap_cons]
    rfl

theorem intercalate_cons {α : Type} (gap x : List α) (xs : List (List α)) :
    gap.intercalate (x :: xs) = x ++ xs.flatMap (gap ++ ·) := by
  rw [List.intercalate, intersperse_cons, List.flatten_cons, ← List.flatMap_id, List.flatMap_assoc]
  simp

/-! ### What comes before a piece -/

/-- Pieces with a separator after each of them. -/
def closed (a : Char) (pieces : List (List Char)) : List Char := pieces.flatMap (· ++ [a])

theorem closed_cons (a : Char) (piece : List Char) (pieces : List (List Char)) :
    closed a (piece :: pieces) = piece ++ a :: closed a pieces := by
  simp [closed]

theorem intercalate_append_cons (a : Char) (before : List (List Char)) (piece : List Char)
    (after : List (List Char)) :
    [a].intercalate (before ++ piece :: after) =
      closed a before ++ [a].intercalate (piece :: after) := by
  induction before with
  | nil => rfl
  | cons p before ih =>
    rw [List.cons_append, List.intercalate_cons_of_ne_nil (by simp), ih, closed_cons]
    simp

theorem eq_append_of_splitOn {before after : List (List Char)} {piece : List Char}
    (h : text.splitOn a = before ++ piece :: after) :
    ∃ rest, text = closed a before ++ (piece ++ rest) := by
  have htext : [a].intercalate (text.splitOn a) = text := List.intercalate_splitOn a
  rw [h, intercalate_append_cons] at htext
  cases after with
  | nil => exact ⟨[], by rw [← htext, List.intercalate_singleton, List.append_nil]⟩
  | cons q after =>
    refine ⟨[a] ++ [a].intercalate (q :: after), ?_⟩
    rw [← htext, List.intercalate_cons_cons, List.append_assoc]

/-- The pieces of a text have no other characters than the text. -/
theorem mem_of_mem_splitOn {piece : List Char} (h : piece ∈ text.splitOn a) {c : Char}
    (hc : c ∈ piece) : c ∈ text := by
  obtain ⟨before, after, hsplit⟩ := List.append_of_mem h
  obtain ⟨rest, rfl⟩ := eq_append_of_splitOn hsplit
  exact List.mem_append_right _ (List.mem_append_left _ hc)

theorem count_closed {pieces : List (List Char)} (h : ∀ p ∈ pieces, a ∉ p) :
    (closed a pieces).count a = pieces.length := by
  induction pieces with
  | nil => rfl
  | cons p pieces ih =>
    rw [List.forall_mem_cons] at h
    rw [closed_cons, List.count_append, List.count_eq_zero.2 h.1, List.count_cons_self, ih h.2,
      List.length_cons, Nat.zero_add]

theorem getLast?_closed {pieces : List (List Char)} (h : pieces ≠ []) :
    (closed a pieces).getLast? = some a := by
  rw [← List.dropLast_concat_getLast h]
  simp [closed]

end ArgProcessor
