/-
  ArgProcessor/Proofs/Text/Lines.lean
  ===================================
  **A text made of lines determines its lines.**

  As long as no line holds a line feed, the lines can be read off the text (`unlines_injective`)
  and counted in it (`count_newline_unlines`).  What stands on a line of its own at some place of
  a text (`IsLineAfter`) is either its first line or stands after that (`IsLineAfter.of_line`).
-/
import ArgProcessor.Text.Lines
import ArgProcessor.Proofs.Text.Pieces

namespace ArgProcessor

/-- `line` is a whole line of `text`, and `before` is all that comes before it. -/
structure IsLineAfter (text before line : List Char) : Prop where
  found : ∃ rest, text = before ++ (line ++ '\n' :: rest)
  oneLine : '\n' ∉ line
  startsLine : before = [] ∨ before.getLast? = some '\n'

theorem append_newline_inj {a b x y : List Char} (ha : '\n' ∉ a) (hb : '\n' ∉ b)
    (h : a ++ '\n' :: x = b ++ '\n' :: y) : a = b ∧ x = y := by
  induction a generalizing b with
  | nil =>
    cases b with
    | nil => exact ⟨rfl, (List.cons.inj h).2⟩
    | cons c b =>
      have hc : '\n' = c := (List.cons.inj h).1
      exact absurd (hc ▸ List.mem_cons_self) hb
  | cons c a ih =>
    cases b with
    | nil =>
      have hc : c = '\n' := (List.cons.inj h).1
      exact absurd (hc ▸ List.mem_cons_self) ha
    | cons d b =>
      obtain ⟨rfl, htail⟩ := List.cons.inj h
      have ha' : '\n' ∉ a := fun hm => ha (List.mem_cons_of_mem _ hm)
      have hb' : '\n' ∉ b := fun hm => hb (List.mem_cons_of_mem _ hm)
      obtain ⟨rfl, rfl⟩ := ih ha' hb' htail
      exact ⟨rfl, rfl⟩

/-! ### Lines of a text -/

theorem toList_unlines_cons (l : String) (ls : List String) :
    (unlines (l :: ls)).toList = l.toList ++ '\n' :: (unlines ls).toList := by
  simp [toList_unlines]

/-- **Lines without line feeds are determined by their text.** -/
theorem unlines_injective {ls ms : List String} (hl : ∀ l ∈ ls, '\n' ∉ l.toList)
    (hm : ∀ l ∈ ms, '\n' ∉ l.toList) (h : unlines ls = unlines ms) : ls = ms := by
  induction ls generalizing ms with
  | nil =>
    cases ms with
    | nil => rfl
    | cons m ms =>
      have := congrArg String.toList h
      simp [toList_unlines] at this
  | cons l ls ih =>
    cases ms with
    | nil =>
      have := congrArg String.toList h
      simp [toList_unlines] at this
    | cons m ms =>
      rw [List.forall_mem_cons] at hl hm
      have hchars := congrArg String.toList h
      rw [toList_unlines_cons, toList_unlines_cons] at hchars
      obtain ⟨hline, hrest⟩ := append_newline_inj hl.1 hm.1 hchars
      rw [String.toList_inj.1 hline, ih hl.2 hm.2 (String.toList_inj.1 hrest)]

theorem toList_unlines_eq_closed (ls : List String) :
    (unlines ls).toList = closed '\n' (ls.map String.toList) := by
  rw [toList_unlines, closed, List.flatMap_map]

theorem count_newline_unlines {ls : List String} (hl : ∀ l ∈ ls, '\n' ∉ l.toList) :
    (unlines ls).toList.count '\n' = ls.length := by
  rw [toList_unlines_eq_closed, count_closed (List.forall_mem_map.2 hl), List.length_map]

theorem getLast?_unlines {ls : List String} (h : ls ≠ []) :
    (unlines ls).toList.getLast? = some '\n' := by
  rw [toList_unlines_eq_closed, getLast?_closed (mt List.map_eq_nil_iff.1 h)]

/-! ### The place of a line -/

/-- A line after the first one, or the first one itself. -/
theorem IsLineAfter.of_line {l text before line : List Char} (hl : '\n' ∉ l)
    (h : IsLineAfter (l ++ '\n' :: text) before line) :
    (before = [] ∧ line = l) ∨
      ∃ before', before = l ++ '\n' :: before' ∧ IsLineAfter text before' line := by
  obtain ⟨⟨rest, hfound⟩, hline, rfl | hlast⟩ := h
  · obtain ⟨rfl, -⟩ := append_newline_inj hl hline hfound
    exact Or.inl ⟨rfl, rfl⟩
  · obtain ⟨b, rfl⟩ := List.getLast?_eq_some_iff.1 hlast
    right
    rw [List.append_assoc, List.singleton_append, List.append_eq_append_iff] at hfound
    -- the line feed after `l` stands at the end of `b ++ ['\n']` or inside `b`
    obtain ⟨c, rfl, hc⟩ | ⟨c, rfl, hc⟩ := hfound
    · cases c with
      | nil =>
        obtain rfl := (List.cons.inj hc).2
        exact ⟨[], by simp, ⟨rest, rfl⟩, hline, Or.inl rfl⟩
      | cons d c =>
        obtain ⟨rfl, rfl⟩ := List.cons.inj hc
        exact ⟨c ++ ['\n'], by simp, ⟨rest, by simp⟩, hline, Or.inr (by simp)⟩
    · cases c with
      | nil =>
        obtain rfl := (List.cons.inj hc).2
        exact ⟨[], by simp, ⟨rest, rfl⟩, hline, Or.inl rfl⟩
      | cons d c =>
        obtain rfl : '\n' = d := (List.cons.inj hc).1
        exact absurd (List.mem_append_right _ List.mem_cons_self) hl

end ArgProcessor
