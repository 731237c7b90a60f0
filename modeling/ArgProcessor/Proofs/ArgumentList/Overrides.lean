/-
  ArgProcessor/Proofs/ArgumentList/Overrides.lean
  ===============================================
  **Which rows override an earlier one.**

  Among rows that are read one after the other, one more row adds at most one override: the one
  over the first earlier row of its name (`overridesOf_concat`).  All else is an induction on the
  rows from their end.  The rows of a text have increasing line numbers, so that the first
  earlier row is the one with the least number, and what holds of the rows can be said of the
  lines of the text (`recordsOverrides_of_read`).
-/
import ArgProcessor.Proofs.ArgumentList.Acceptance
import ArgProcessor.Proofs.ArgumentList.FirstFault
import ArgProcessor.Proofs.ArgumentList.Insertion

namespace ArgProcessor

/-! ### Overrides as the text has them -/

/-- The line after the header with the number `n` is not blank, and it is `row`. -/
structure IsRowAt (content : String) (n : Nat) (row : List Char) : Prop where
  afterHeader : 2 ≤ n
  found : (rowTexts content)[n - 1]? = some row
  notBlank : ¬IsBlankRow row

/-- Line `n` is a row for `name`. -/
def NamesAt (content : String) (n : Nat) (name : String) : Prop :=
  ∃ row, IsRowAt content n row ∧ firstField row = name

/-- The overrides of a list are those of the text: one for each row whose name stands on an
    earlier row, with the line of the first such row. -/
structure RecordsOverrides (content : String) (s : ArgumentList) : Prop where
  increasing : s.overrides.Pairwise fun o p => o.line < p.line
  mem_iff : ∀ o, o ∈ s.overrides ↔
    NamesAt content o.line o.name ∧ NamesAt content o.firstLine o.name ∧ o.firstLine < o.line ∧
      ∀ m, NamesAt content m o.name → o.firstLine ≤ m
  once : ∀ n name, NamesAt content n name → (∃ m, m < n ∧ NamesAt content m name) →
    ∃! o, o ∈ s.overrides ∧ o.line = n
  firstLine_lt : ∀ o ∈ s.overrides, o.firstLine < o.line
  firstLine_eq : ∀ o ∈ s.overrides, ∀ p ∈ s.overrides, o.name = p.name → o.firstLine = p.firstLine
  count : s.overrides.length + s.size = ((rowTexts content).tail.filter (¬IsBlankRow ·)).length
  lastWins : ∀ o ∈ s.overrides, ∃ last ∈ s.overrides, last.name = o.name ∧
    (∀ p ∈ s.overrides, p.name = o.name → p.line ≤ last.line) ∧
      ∃ row a, IsRowAt content last.line row ∧ Declares row a ∧ s.get? o.name = some a

/-! ### One more row -/

/-- What is recorded of a row that comes after the rows `earlier`. -/
def overrideBy (earlier : List Row) (r : Row) : Option Override :=
  (earlier.find? (·.argument.name == r.argument.name)).map fun first =>
    ⟨r.argument.name, first.line, r.line⟩

theorem overrideBy_eq_some_iff {earlier : List Row} {r : Row} {o : Override} :
    overrideBy earlier r = some o ↔
      ∃ first, earlier.find? (·.argument.name == r.argument.name) = some first ∧
        o = ⟨r.argument.name, first.line, r.line⟩ := by
  rw [overrideBy, Option.map_eq_some_iff]
  constructor
  · rintro ⟨first, hfirst, rfl⟩
    exact ⟨first, hfirst, rfl⟩
  · rintro ⟨first, hfirst, rfl⟩
    exact ⟨first, hfirst, rfl⟩

theorem overrideBy_eq_none_iff {earlier : List Row} {r : Row} :
    overrideBy earlier r = none ↔ ∀ q ∈ earlier, q.argument.name ≠ r.argument.name := by
  rw [overrideBy, Option.map_eq_none_iff, List.find?_eq_none]
  simp only [beq_iff_eq, ne_eq]

theorem overridesAfter_concat (firsts rows : List Row) (r : Row) :
    overridesAfter firsts (rows ++ [r]) =
      overridesAfter firsts rows ++ (overrideBy (firsts ++ rows) r).toList := by
  induction rows generalizing firsts with
  | nil =>
    rw [List.nil_append, List.append_nil, overridesAfter, overrideBy]
    cases h : firsts.find? (·.argument.name == r.argument.name) with
    | none => simp [overridesAfter, h]
    | some first => simp [overridesAfter, h]
  | cons q rows ih =>
    rw [List.cons_append, overridesAfter, overridesAfter]
    cases hq : firsts.find? (·.argument.name == q.argument.name) with
    | none =>
      simp only
      rw [ih, List.append_assoc, List.singleton_append]
    | some first =>
      -- `q` overrides a row of its name, which is found before `q` is
      have hskip : (firsts ++ q :: rows).find? (·.argument.name == r.argument.name) =
          (firsts ++ rows).find? (·.argument.name == r.argument.name) := by
        rw [List.find?_append, List.find?_append]
        by_cases hname : q.argument.name = r.argument.name
        · rw [← hname, hq, Option.some_or, Option.some_or]
        · rw [List.find?_cons_of_neg (by simpa using hname)]
      simp only
      rw [ih, List.cons_append, overrideBy, overrideBy, hskip]

theorem overridesOf_concat (rows : List Row) (r : Row) :
    overridesOf (rows ++ [r]) = overridesOf rows ++ (overrideBy rows r).toList :=
  overridesAfter_concat [] rows r

/-! ### All rows -/

theorem mem_overridesOf_iff {rows : List Row} {o : Override} :
    o ∈ overridesOf rows ↔
      ∃ before r after, rows = before ++ r :: after ∧ overrideBy before r = some o := by
  induction rows using List.reverseRecOn with
  | nil =>
    constructor
    · intro h
      cases h
    · rintro ⟨before, r, after, h, -⟩
      simp at h
  | append_singleton rows r ih =>
    rw [overridesOf_concat, List.mem_append, ih, Option.mem_toList]
    constructor
    · rintro (⟨before, q, after, rfl, hq⟩ | hr)
      · exact ⟨before, q, after ++ [r], by simp, hq⟩
      · exact ⟨rows, r, [], rfl, hr⟩
    · rintro ⟨before, q, after, h, hq⟩
      rcases List.eq_nil_or_concat after with rfl | ⟨after', r', rfl⟩
      · obtain ⟨rfl, hlast⟩ := List.append_inj' h rfl
        obtain rfl : r = q := List.singleton_inj.1 hlast
        exact Or.inr hq
      · have hsplit : rows ++ [r] = (before ++ q :: after') ++ [r'] := by simpa using h
        obtain ⟨rfl, -⟩ := List.append_inj' hsplit rfl
        exact Or.inl ⟨before, q, after', rfl, hq⟩

/-- The overridden lines come in the order of the rows. -/
theorem map_line_overridesOf_sublist (rows : List Row) :
    ((overridesOf rows).map (·.line)).Sublist (rows.map (·.line)) := by
  induction rows using List.reverseRecOn with
  | nil => exact List.Sublist.slnil
  | append_singleton rows r ih =>
    rw [overridesOf_concat, List.map_append, List.map_append]
    apply ih.append
    cases h : overrideBy rows r with
    | none => exact List.nil_sublist _
    | some o =>
      obtain ⟨first, -, rfl⟩ := overrideBy_eq_some_iff.1 h
      exact List.Sublist.refl _

theorem get?_ofRows (rows : List Row) (name : String) :
    (ArgumentList.ofRows rows).get? name =
      (rows.map (·.argument)).reverse.find? (·.name == name) := by
  rw [← List.findRev?_eq_find?_reverse]
  exact ArgumentList.get?_ofArguments _ _

theorem get?_ofRows_eq_none_iff {rows : List Row} {name : String} :
    (ArgumentList.ofRows rows).get? name = none ↔ ∀ q ∈ rows, q.argument.name ≠ name := by
  rw [get?_ofRows, List.find?_eq_none]
  simp only [List.mem_reverse, List.forall_mem_map, beq_iff_eq, ne_eq]

/-- A row either declares a new name or overrides an earlier row. -/
theorem length_overridesOf_add_size (rows : List Row) :
    (overridesOf rows).length + (ArgumentList.ofRows rows).size = rows.length := by
  induction rows using List.reverseRecOn with
  | nil => rfl
  | append_singleton rows r ih =>
    have hsize : (ArgumentList.ofRows (rows ++ [r])).size = (ArgumentList.ofRows rows).size +
        if (ArgumentList.ofRows rows).get? r.argument.name = none then 1 else 0 := by
      have harguments := ArgumentList.ofArguments_concat (rows.map (·.argument)) r.argument
      rw [← List.map_singleton, ← List.map_append] at harguments
      exact (congrArg ArgumentList.size harguments).trans (length_upsert _ _)
    rw [overridesOf_concat, List.length_append, List.length_append, List.length_singleton, hsize]
    cases h : overrideBy rows r with
    | none =>
      rw [if_pos (get?_ofRows_eq_none_iff.2 (overrideBy_eq_none_iff.1 h))]
      simp only [Option.toList_none, List.length_nil]
      omega
    | some o =>
      rw [if_neg fun hnone => ?_]
      · simp only [Option.toList_some, List.length_singleton]
        omega
      · rw [overrideBy_eq_none_iff.2 (get?_ofRows_eq_none_iff.1 hnone)] at h
        contradiction

/-! ### Rows with increasing lines -/

section Increasing

variable {rows : List Row} (hlines : rows.Pairwise fun q r => q.line < r.line)
include hlines

theorem line_lt_of_split {before after : List Row} {r : Row} (h : rows = before ++ r :: after) :
    (∀ q ∈ before, q.line < r.line) ∧ ∀ q ∈ after, r.line < q.line := by
  rw [h, List.pairwise_append, List.pairwise_cons] at hlines
  obtain ⟨-, ⟨hafter, -⟩, hbefore⟩ := hlines
  exact ⟨fun q hq => hbefore q hq r List.mem_cons_self, hafter⟩

theorem eq_of_line_eq {q r : Row} (hq : q ∈ rows) (hr : r ∈ rows) (h : q.line = r.line) :
    q = r :=
  List.inj_on_of_nodup_map ((List.pairwise_map.2 hlines).imp Nat.ne_of_lt) hq hr h

/-- The rows before a row are those with a smaller line. -/
theorem mem_before_iff {before after : List Row} {q r : Row} (h : rows = before ++ r :: after) :
    q ∈ before ↔ q ∈ rows ∧ q.line < r.line := by
  obtain ⟨hbefore, hafter⟩ := line_lt_of_split hlines h
  constructor
  · intro hq
    exact ⟨h ▸ List.mem_append_left _ hq, hbefore q hq⟩
  · rintro ⟨hq, hlt⟩
    rw [h, List.mem_append, List.mem_cons] at hq
    rcases hq with hq | rfl | hq
    · exact hq
    · omega
    · have := hafter q hq
      omega

/-- The first row of a name among earlier rows is the one with the least line. -/
theorem find?_before_eq_some_iff {before after : List Row} {first r : Row}
    (h : rows = before ++ r :: after) (name : String) :
    before.find? (·.argument.name == name) = some first ↔
      first ∈ rows ∧ first.line < r.line ∧ first.argument.name = name ∧
        ∀ q ∈ rows, q.argument.name = name → first.line ≤ q.line := by
  have hbefore := (List.pairwise_append.1 (h ▸ hlines)).1
  constructor
  · intro hfirst
    obtain ⟨hmem, hlt⟩ := (mem_before_iff hlines h).1 (List.mem_of_find?_eq_some hfirst)
    refine ⟨hmem, hlt, by simpa using List.find?_some hfirst, fun q hq hname => ?_⟩
    by_contra hless
    have hearlier := (mem_before_iff hlines h).2 ⟨hq, by omega⟩
    obtain ⟨-, as, bs, rfl, has⟩ := List.find?_eq_some_iff_append.1 hfirst
    rw [List.pairwise_append, List.pairwise_cons] at hbefore
    rw [List.mem_append, List.mem_cons] at hearlier
    rcases hearlier with hq' | rfl | hq'
    · exact absurd hname (by simpa using has q hq')
    · omega
    · have := hbefore.2.1.1 q hq'
      omega
  · rintro ⟨hmem, hlt, hname, hleast⟩
    have hearlier := (mem_before_iff hlines h).2 ⟨hmem, hlt⟩
    obtain ⟨found, hfound⟩ : ∃ found, before.find? (·.argument.name == name) = some found := by
      rw [← Option.isSome_iff_exists, List.find?_isSome]
      exact ⟨first, hearlier, by simpa using hname⟩
    obtain ⟨-, as, bs, hsplit, has⟩ := List.find?_eq_some_iff_append.1 hfound
    have hfoundName : found.argument.name = name := by simpa using List.find?_some hfound
    obtain ⟨hfoundMem, -⟩ := (mem_before_iff hlines h).1 (List.mem_of_find?_eq_some hfound)
    have hle := hleast found hfoundMem hfoundName
    rw [hsplit, List.mem_append, List.mem_cons] at hearlier
    rw [hsplit, List.pairwise_append, List.pairwise_cons] at hbefore
    rcases hearlier with hq | rfl | hq
    · exact absurd hname (by simpa using has first hq)
    · exact hfound
    · have := hbefore.2.1.1 first hq
      omega

/-- The overrides, told by the lines of the rows. -/
theorem mem_overridesOf_iff_of_increasing {o : Override} :
    o ∈ overridesOf rows ↔
      (∃ r ∈ rows, r.line = o.line ∧ r.argument.name = o.name) ∧
        (∃ first ∈ rows, first.line = o.firstLine ∧ first.argument.name = o.name) ∧
          o.firstLine < o.line ∧
            ∀ q ∈ rows, q.argument.name = o.name → o.firstLine ≤ q.line := by
  rw [mem_overridesOf_iff]
  constructor
  · rintro ⟨before, r, after, hsplit, hr⟩
    obtain ⟨first, hfirst, rfl⟩ := overrideBy_eq_some_iff.1 hr
    obtain ⟨hmem, hlt, hname, hleast⟩ := (find?_before_eq_some_iff hlines hsplit _).1 hfirst
    have hrow : r ∈ rows := hsplit ▸ List.mem_append_right _ List.mem_cons_self
    exact ⟨⟨r, hrow, rfl, rfl⟩, ⟨first, hmem, rfl, hname⟩, hlt, hleast⟩
  · rintro ⟨⟨r, hr, hline, hname⟩, ⟨first, hfirst, hfirstLine, hfirstName⟩, hlt, hleast⟩
    obtain ⟨before, after, hsplit⟩ := List.append_of_mem hr
    refine ⟨before, r, after, hsplit, overrideBy_eq_some_iff.2 ⟨first, ?_, ?_⟩⟩
    · rw [find?_before_eq_some_iff hlines hsplit, hname, hfirstLine, hline]
      exact ⟨hfirst, hlt, hfirstName, hleast⟩
    · rw [hname, hfirstLine, hline]

theorem exists_override_of_earlier {q r : Row} (hq : q ∈ rows) (hr : r ∈ rows)
    (hlt : q.line < r.line) (hname : q.argument.name = r.argument.name) :
    ∃ o ∈ overridesOf rows, o.line = r.line := by
  obtain ⟨before, after, hsplit⟩ := List.append_of_mem hr
  have hearlier := (mem_before_iff hlines hsplit).2 ⟨hq, hlt⟩
  cases ho : overrideBy before r with
  | none => exact absurd hname (overrideBy_eq_none_iff.1 ho q hearlier)
  | some o =>
    obtain ⟨first, -, rfl⟩ := overrideBy_eq_some_iff.1 ho
    exact ⟨_, mem_overridesOf_iff.2 ⟨before, r, after, hsplit, ho⟩, rfl⟩

/-- The row that gives an argument is the last one of its name. -/
theorem exists_last_row {q : Row} (hq : q ∈ rows) :
    ∃ r ∈ rows, r.argument.name = q.argument.name ∧
      (ArgumentList.ofRows rows).get? q.argument.name = some r.argument ∧
        ∀ p ∈ rows, p.argument.name = q.argument.name → p.line ≤ r.line := by
  obtain ⟨r, hr⟩ : ∃ r, rows.reverse.find? (·.argument.name == q.argument.name) = some r := by
    rw [← Option.isSome_iff_exists, List.find?_isSome]
    exact ⟨q, List.mem_reverse.2 hq, beq_self_eq_true _⟩
  have hget : (ArgumentList.ofRows rows).get? q.argument.name = some r.argument := by
    rw [get?_ofRows, ← List.map_reverse, List.find?_map]
    exact congrArg (Option.map Row.argument) hr
  have hname : r.argument.name = q.argument.name := by simpa using List.find?_some hr
  have hmem : r ∈ rows := List.mem_reverse.1 (List.mem_of_find?_eq_some hr)
  refine ⟨r, hmem, hname, hget, fun p hp hpname => ?_⟩
  -- in the reversed list no row of the name comes before `r`
  obtain ⟨-, as, bs, hsplit, has⟩ := List.find?_eq_some_iff_append.1 hr
  have hrows : rows = bs.reverse ++ r :: as.reverse := by
    rw [← List.reverse_reverse rows, hsplit]
    simp
  by_contra hlate
  have hnotBefore : p ∉ bs.reverse := fun hbefore => by
    have := ((mem_before_iff hlines hrows).1 hbefore).2
    omega
  rw [hrows, List.mem_append, List.mem_cons, List.mem_reverse] at hp
  rcases hp with hp | rfl | hp
  · exact hnotBefore (List.mem_reverse.2 hp)
  · exact hlate (Nat.le_refl _)
  · exact absurd hpname (by simpa using has p (List.mem_reverse.1 hp))

/-- Of the rows of an overridden name the last one overrides, and it gives the argument. -/
theorem exists_last_override {o : Override} (ho : o ∈ overridesOf rows) :
    ∃ last ∈ overridesOf rows, last.name = o.name ∧
      (∀ p ∈ overridesOf rows, p.name = o.name → p.line ≤ last.line) ∧
        ∃ r ∈ rows, r.line = last.line ∧
          (ArgumentList.ofRows rows).get? o.name = some r.argument := by
  obtain ⟨⟨q, hq, hqline, hqname⟩, ⟨first, hfirst, hfirstLine, hfirstName⟩, hlt, -⟩ :=
    (mem_overridesOf_iff_of_increasing hlines).1 ho
  obtain ⟨r, hr, hrname, hget, hlast⟩ := exists_last_row hlines hq
  rw [hqname] at hrname hget hlast
  have hqr := hlast q hq hqname
  obtain ⟨last, hmem, hline⟩ :=
    exists_override_of_earlier hlines hfirst hr (by omega) (hfirstName.trans hrname.symm)
  obtain ⟨⟨r', hr', hrline', hrname'⟩, -⟩ := (mem_overridesOf_iff_of_increasing hlines).1 hmem
  obtain rfl := eq_of_line_eq hlines hr' hr (hrline'.trans hline)
  refine ⟨last, hmem, hrname'.symm.trans hrname, ?_, r', hr, hline.symm, hget⟩
  intro p hp hpname
  obtain ⟨⟨p', hp', hpline, hpname'⟩, -⟩ := (mem_overridesOf_iff_of_increasing hlines).1 hp
  have hle := hlast p' hp' (hpname'.trans hpname)
  omega

end Increasing

/-! ### Rows of a text -/

theorem Line.map_number_locate (number offset : Nat) (ps : List (List Char)) :
    (locate number offset ps).map (·.number) = List.range' number ps.length := by
  induction ps generalizing number offset with
  | nil => rfl
  | cons p ps ih => rw [locate, List.map_cons, ih, List.length_cons, List.range'_succ]

theorem Line.number_of_getElem?_locate {number offset i : Nat} {ps : List (List Char)} {l : Line}
    (h : (locate number offset ps)[i]? = some l) : l.number = number + i := by
  obtain ⟨hi, -⟩ := List.getElem?_eq_some_iff.1 h
  rw [length_locate] at hi
  have hnumber := congrArg (Option.map (·.number)) h
  rw [← List.getElem?_map, map_number_locate, List.getElem?_range' hi, Option.map_some,
    Option.some.injEq] at hnumber
  omega

theorem Line.mem_tail_ofText_iff {content : String} {n : Nat} {row : List Char} :
    (∃ l ∈ (ofText content.toList).tail, l.number = n ∧ l.text = row) ↔
      2 ≤ n ∧ (rowTexts content)[n - 1]? = some row := by
  obtain ⟨header, rest, hsplit, htail⟩ := exists_tail_ofText content
  have htexts := map_text_locate 2 (utf8Length header + 1) rest
  rw [htail, rowTexts, hsplit, List.map_cons, ← htexts]
  constructor
  · rintro ⟨l, hl, rfl, rfl⟩
    obtain ⟨i, hi⟩ := List.mem_iff_getElem?.1 hl
    rw [number_of_getElem?_locate hi, show 2 + i - 1 = i + 1 by omega, List.getElem?_cons_succ,
      List.getElem?_map, hi]
    exact ⟨by omega, rfl⟩
  · rintro ⟨hn, hrow⟩
    obtain ⟨i, rfl⟩ := Nat.exists_eq_add_of_le hn
    rw [show 2 + i - 1 = i + 1 by omega, List.getElem?_cons_succ, List.getElem?_map,
      Option.map_eq_some_iff] at hrow
    obtain ⟨l, hl, rfl⟩ := hrow
    exact ⟨l, List.mem_of_getElem? hl, number_of_getElem?_locate hl, rfl⟩

theorem firstField_of_declares {row : List Char} {a : Argument} (h : Declares row a) :
    firstField row = a.name := by
  obtain ⟨name, _, _, _, _, _, hsplit, -, rfl⟩ := h
  exact firstField_of_splitOn hsplit

theorem isRowAt_iff {content : String} {n : Nat} {row : List Char} :
    IsRowAt content n row ↔
      ∃ l ∈ (Line.ofText content.toList).tail.filter fun l => !l.isBlank,
        l.number = n ∧ l.text = row := by
  constructor
  · rintro ⟨hn, hrow, hblank⟩
    obtain ⟨l, hl, hnumber, rfl⟩ := Line.mem_tail_ofText_iff.2 ⟨hn, hrow⟩
    refine ⟨l, List.mem_filter.2 ⟨hl, ?_⟩, hnumber, rfl⟩
    rw [← Line.isBlank_iff] at hblank
    simpa using hblank
  · rintro ⟨l, hl, rfl, rfl⟩
    obtain ⟨hl, hblank⟩ := List.mem_filter.1 hl
    obtain ⟨hn, hrow⟩ := Line.mem_tail_ofText_iff.1 ⟨l, hl, rfl, rfl⟩
    refine ⟨hn, hrow, fun hb => ?_⟩
    rw [Line.isBlank_iff.2 hb] at hblank
    contradiction

section Text

variable {content : String} {rows : List Row}
  (h : rowsOfLines (Line.ofText content.toList).tail = .ok rows)
include h

theorem pairwise_line_of_rowsOfLines : rows.Pairwise fun q r => q.line < r.line := by
  obtain ⟨header, rest, -, htail⟩ := exists_tail_ofText content
  have hsame : ((Line.ofText content.toList).tail.filter fun l => !l.isBlank).map (·.number) =
      rows.map (·.line) := by
    rw [← List.forall₂_eq_eq_eq, List.forall₂_map_left_iff, List.forall₂_map_right_iff]
    exact (rowsOfLines_eq_ok_iff.1 h).imp fun _ _ hr => hr.1.symm
  rw [← List.pairwise_map, ← hsame]
  refine List.Pairwise.sublist (List.filter_sublist.map _) ?_
  rw [htail, Line.map_number_locate]
  exact List.pairwise_lt_range'

theorem exists_row_of_isRowAt {n : Nat} {row : List Char} (hrow : IsRowAt content n row) :
    ∃ r ∈ rows, r.line = n ∧ Declares row r.argument := by
  obtain ⟨l, hl, rfl, rfl⟩ := isRowAt_iff.1 hrow
  exact (exists_of_mem_forall₂ (rowsOfLines_eq_ok_iff.1 h)).1 l hl

theorem exists_isRowAt_of_mem {r : Row} (hr : r ∈ rows) :
    ∃ row, IsRowAt content r.line row ∧ Declares row r.argument := by
  obtain ⟨l, hl, hline, hdeclares⟩ := (exists_of_mem_forall₂ (rowsOfLines_eq_ok_iff.1 h)).2 r hr
  exact ⟨l.text, isRowAt_iff.2 ⟨l, hl, hline.symm, rfl⟩, hdeclares⟩

theorem namesAt_iff {n : Nat} {name : String} :
    NamesAt content n name ↔ ∃ r ∈ rows, r.line = n ∧ r.argument.name = name := by
  constructor
  · rintro ⟨row, hrow, rfl⟩
    obtain ⟨r, hr, hline, hdeclares⟩ := exists_row_of_isRowAt h hrow
    exact ⟨r, hr, hline, (firstField_of_declares hdeclares).symm⟩
  · rintro ⟨r, hr, rfl, rfl⟩
    obtain ⟨row, hrow, hdeclares⟩ := exists_isRowAt_of_mem h hr
    exact ⟨row, hrow, firstField_of_declares hdeclares⟩

theorem mem_overridesOf_iff_namesAt {o : Override} :
    o ∈ overridesOf rows ↔
      NamesAt content o.line o.name ∧ NamesAt content o.firstLine o.name ∧
        o.firstLine < o.line ∧ ∀ m, NamesAt content m o.name → o.firstLine ≤ m := by
  rw [mem_overridesOf_iff_of_increasing (pairwise_line_of_rowsOfLines h)]
  simp only [namesAt_iff h]
  refine and_congr_right fun _ => and_congr_right fun _ => and_congr_right fun _ => ?_
  constructor
  · rintro hleast m ⟨q, hq, rfl, hname⟩
    exact hleast q hq hname
  · exact fun hleast q hq hname => hleast q.line ⟨q, hq, rfl, hname⟩

theorem length_rows :
    rows.length = ((rowTexts content).tail.filter (¬IsBlankRow ·)).length := by
  have hlength := (ArgumentList.forall₂_declares h).length_eq
  rw [Line.map_text_ofText, List.length_map] at hlength
  exact hlength.symm

end Text

/-- **The overrides of a list are those of its text.** -/
theorem recordsOverrides_of_read {content name : String} {s : ArgumentList}
    (h : ArgumentList.read content name = .ok s) : RecordsOverrides content s := by
  obtain ⟨rows, hrows, rfl⟩ := ArgumentList.read_eq_ok_iff.1 h
  have hlines := pairwise_line_of_rowsOfLines hrows
  have hmem : ∀ o, o ∈ (ArgumentList.ofRows rows).overrides ↔ _ :=
    fun o => mem_overridesOf_iff_namesAt hrows
  have hincreasing : (overridesOf rows).Pairwise fun o p => o.line < p.line := by
    rw [← List.pairwise_map] at hlines ⊢
    exact hlines.sublist (map_line_overridesOf_sublist rows)
  constructor
  case increasing => exact hincreasing
  case mem_iff => exact hmem
  case once =>
    rintro n name hn ⟨m, hlt, hm⟩
    obtain ⟨r, hr, rfl, rfl⟩ := (namesAt_iff hrows).1 hn
    obtain ⟨q, hq, rfl, hname⟩ := (namesAt_iff hrows).1 hm
    obtain ⟨o, ho, hline⟩ := exists_override_of_earlier hlines hq hr hlt hname
    refine ⟨o, ⟨ho, hline⟩, ?_⟩
    rintro p ⟨hp, hpline⟩
    have hnodup := (List.pairwise_map.2 hincreasing).imp Nat.ne_of_lt
    exact List.inj_on_of_nodup_map hnodup hp ho (hpline.trans hline.symm)
  case firstLine_lt => exact fun o ho => ((hmem o).1 ho).2.2.1
  case firstLine_eq =>
    intro o ho p hp hname
    obtain ⟨-, hofirst, -, holeast⟩ := (hmem o).1 ho
    obtain ⟨-, hpfirst, -, hpleast⟩ := (hmem p).1 hp
    exact Nat.le_antisymm (holeast _ (hname ▸ hpfirst)) (hpleast _ (hname ▸ hofirst))
  case count =>
    rw [← length_rows hrows]
    exact length_overridesOf_add_size rows
  case lastWins =>
    intro o ho
    obtain ⟨last, hlast, hname, hgreatest, r, hr, hline, hget⟩ := exists_last_override hlines ho
    obtain ⟨row, hrow, hdeclares⟩ := exists_isRowAt_of_mem hrows hr
    exact ⟨last, hlast, hname, hgreatest, row, _, hline ▸ hrow, hdeclares, hget⟩

/-- A name on four rows, with a blank line and another name between them. -/
theorem recordsOverrides_of_read_interleaved :
    ∃ content s,
      content = "h\na,,,,,\n \r\nb,,,,,\n a ,file,,,,\r\na,x,Yes,,,\nb,,,,,\na,,,,,Yes" ∧
        ArgumentList.read content = .ok s ∧
          s.overrides = [⟨"a", 2, 5⟩, ⟨"a", 2, 6⟩, ⟨"b", 4, 7⟩, ⟨"a", 2, 8⟩] ∧
            s.get? "a" = some ⟨"a", "", false, false, false, true⟩ ∧
              RecordsOverrides content s := by
  have hread : ArgumentList.read
      "h\na,,,,,\n \r\nb,,,,,\n a ,file,,,,\r\na,x,Yes,,,\nb,,,,,\na,,,,,Yes" =
      .ok (ArgumentList.ofRows
        [⟨2, ⟨"a", "", false, false, false, false⟩⟩, ⟨4, ⟨"b", "", false, false, false, false⟩⟩,
          ⟨5, ⟨"a", "file", false, false, false, false⟩⟩,
          ⟨6, ⟨"a", "x", true, false, false, false⟩⟩, ⟨7, ⟨"b", "", false, false, false, false⟩⟩,
          ⟨8, ⟨"a", "", false, false, false, true⟩⟩]) := rfl
  exact ⟨_, _, rfl, hread, rfl, rfl, recordsOverrides_of_read hread⟩

end ArgProcessor
