/-
  ArgProcessor/Proofs/ArgumentList/Grammar.lean
  =============================================
  **Which rows there are, and what each of them says.**

  The row of a line is read here from its characters alone (`Declares`, `faultOf`), without the
  order in which the reader looks for faults.  A line is read as the argument that its row
  declares (`Line.argument_eq_ok_iff`) or has the fault of its row (`Line.argument_eq_error_iff`),
  and the lines of a text are read up to the first row at fault (`rowsOfLines_eq_error_iff`).
-/
import Mathlib.Data.List.Forall2
import ArgProcessor.ArgumentList.Row
import ArgProcessor.Proofs.ArgumentList.Line

namespace ArgProcessor

/-! ### The meaning of a row -/

/-- Whether a row holds white space only. -/
def IsBlankRow (row : List Char) : Prop := ∀ c ∈ row, Unicode.isBlank c = true

instance : DecidablePred IsBlankRow := fun row =>
  List.decidableBAll (Unicode.isBlank · = true) row

/-- A trimmed field as a text. -/
def fieldText (field : List Char) : String := String.ofList (Unicode.trim field)

/-- The row has six fields, the first of them an identifier, and they say `a`. -/
def Declares (row : List Char) (a : Argument) : Prop :=
  ∃ name type mandatory existing readable writable,
    row.splitOn ',' = [name, type, mandatory, existing, readable, writable] ∧
      isIdentifier (fieldText name) = true ∧
        a = {
          name := fieldText name
          typeToken := fieldText type
          mandatory := decide (fieldText mandatory = "Yes")
          existing := decide (fieldText existing = "Yes")
          readable := decide (fieldText readable = "Yes")
          writable := decide (fieldText writable = "Yes") }

/-- A row that can be read. -/
def IsGoodRow (row : List Char) : Prop := IsBlankRow row ∨ ∃ a, Declares row a

/-- The first field of a row, trimmed. -/
def firstField (row : List Char) : String := fieldText (row.takeWhile (· != ','))

/-- What is wrong with a row that cannot be read. -/
def faultOf (row : List Char) : RowFault :=
  if row.count ',' + 1 ≠ 6 then
    .wrongColumnCount (row.count ',' + 1)
  else if firstField row = "" then
    .emptyName
  else
    .notIdentifier (firstField row)

theorem reason_faultOf_of_count_ne {row : List Char} (h : row.count ',' + 1 ≠ 6) :
    (faultOf row).reason = "expected 6 columns, found " ++ toString (row.count ',' + 1) := by
  rw [faultOf, if_pos h]
  rfl

theorem reason_faultOf_of_empty {row : List Char} (h : row.count ',' + 1 = 6)
    (hname : firstField row = "") : (faultOf row).reason = "argument name is empty" := by
  rw [faultOf, if_neg (not_not_intro h), if_pos hname]
  rfl

theorem reason_faultOf_of_ne_empty {row : List Char} (h : row.count ',' + 1 = 6)
    (hname : firstField row ≠ "") :
    (faultOf row).reason = "argument name '" ++ firstField row ++ "' is not an identifier" := by
  rw [faultOf, if_neg (not_not_intro h), if_neg hname]
  rfl

/-! ### Reading one row -/

theorem argumentOfFields_of_length_ne {fields : List (List Char)} (h : fields.length ≠ 6) :
    argumentOfFields fields = .error (.wrongColumnCount fields.length) := by
  unfold argumentOfFields
  split
  · exact absurd rfl h
  · rfl

theorem exists_six_of_length_eq {fields : List (List Char)} (h : fields.length = 6) :
    ∃ a b c d e f, fields = [a, b, c, d, e, f] := by
  match fields, h with
  | [a, b, c, d, e, f], _ => exact ⟨a, b, c, d, e, f, rfl⟩

theorem argumentOfFields_six (name type mandatory existing readable writable : List Char) :
    argumentOfFields ([name, type, mandatory, existing, readable, writable].map Unicode.trim) =
      if fieldText name = "" then .error .emptyName
      else if isIdentifier (fieldText name) = true then
        .ok {
          name := fieldText name
          typeToken := fieldText type
          mandatory := decide (fieldText mandatory = "Yes")
          existing := decide (fieldText existing = "Yes")
          readable := decide (fieldText readable = "Yes")
          writable := decide (fieldText writable = "Yes") }
      else .error (.notIdentifier (fieldText name)) := by
  simp only [fieldText, isIdentifier, String.toList_ofList, String.ofList_eq_empty_iff,
    ← List.isEmpty_iff]
  rfl

/-- The first field is what stands before the first comma. -/
theorem firstField_of_splitOn {row name : List Char} {fields : List (List Char)}
    (h : row.splitOn ',' = name :: fields) : firstField row = fieldText name := by
  have hfirst := head?_splitOn ',' row
  rw [h, List.head?_cons, Option.some.injEq] at hfirst
  rw [firstField, hfirst]

theorem argumentOfFields_of_declares {row : List Char} {a : Argument} (h : Declares row a) :
    argumentOfFields (rowFields row) = .ok a := by
  obtain ⟨name, type, mandatory, existing, readable, writable, hsplit, hname, rfl⟩ := h
  have hne : fieldText name ≠ "" := by
    intro he
    rw [he, isIdentifier_empty] at hname
    contradiction
  rw [rowFields, hsplit, argumentOfFields_six, if_neg hne, if_pos hname]

theorem argumentOfFields_of_not_declares {row : List Char} (h : ¬∃ a, Declares row a) :
    argumentOfFields (rowFields row) = .error (faultOf row) := by
  have hlength := length_splitOn ',' row
  unfold faultOf
  by_cases hcount : row.count ',' + 1 = 6
  · obtain ⟨name, type, mandatory, existing, readable, writable, hsplit⟩ :=
      exists_six_of_length_eq (hlength.trans hcount)
    have hname : ¬isIdentifier (fieldText name) = true := fun hid =>
      h ⟨_, name, type, mandatory, existing, readable, writable, hsplit, hid, rfl⟩
    rw [if_neg (not_not_intro hcount), firstField_of_splitOn hsplit, rowFields, hsplit,
      argumentOfFields_six, if_neg hname]
    split <;> rfl
  · rw [if_pos hcount, ← hlength, ← List.length_map Unicode.trim]
    refine argumentOfFields_of_length_ne fun hsix => hcount ?_
    rw [← hlength, ← hsix, rowFields, List.length_map]

theorem Line.argument_eq_ok_iff {l : Line} {a : Argument} :
    l.argument = .ok a ↔ Declares l.text a := by
  refine ⟨fun h => ?_, argumentOfFields_of_declares⟩
  by_cases hd : ∃ b, Declares l.text b
  · obtain ⟨b, hb⟩ := hd
    have hok : l.argument = .ok b := argumentOfFields_of_declares hb
    rw [h, Except.ok.injEq] at hok
    exact hok ▸ hb
  · have herror : l.argument = .error (faultOf l.text) := argumentOfFields_of_not_declares hd
    rw [h] at herror
    cases herror

theorem Line.argument_eq_error_iff {l : Line} {fault : RowFault} :
    l.argument = .error fault ↔ (¬∃ a, Declares l.text a) ∧ fault = faultOf l.text := by
  constructor
  · intro h
    have hd : ¬∃ a, Declares l.text a := by
      rintro ⟨a, ha⟩
      rw [Line.argument_eq_ok_iff.2 ha] at h
      cases h
    have herror : l.argument = .error (faultOf l.text) := argumentOfFields_of_not_declares hd
    rw [h, Except.error.injEq] at herror
    exact ⟨hd, herror⟩
  · rintro ⟨hd, rfl⟩
    exact argumentOfFields_of_not_declares hd

theorem Line.isBlank_iff {l : Line} : l.isBlank = true ↔ IsBlankRow l.text := List.all_eq_true

/-! ### Reading the rows of lines -/

theorem exists_of_mem_forall₂ {α β : Type} {R : α → β → Prop} {l : List α} {m : List β}
    (h : List.Forall₂ R l m) : (∀ x ∈ l, ∃ y ∈ m, R x y) ∧ ∀ y ∈ m, ∃ x ∈ l, R x y := by
  induction h with
  | nil => exact ⟨nofun, nofun⟩
  | cons hxy _ ih =>
    constructor
    · rw [List.forall_mem_cons]
      refine ⟨⟨_, List.mem_cons_self, hxy⟩, fun x hx => ?_⟩
      obtain ⟨y, hy, hr⟩ := ih.1 x hx
      exact ⟨y, List.mem_cons_of_mem _ hy, hr⟩
    · rw [List.forall_mem_cons]
      refine ⟨⟨_, List.mem_cons_self, hxy⟩, fun y hy => ?_⟩
      obtain ⟨x, hx, hr⟩ := ih.2 y hy
      exact ⟨x, List.mem_cons_of_mem _ hx, hr⟩

/-- **The rows of lines are read when each line that is not blank declares an argument.** -/
theorem rowsOfLines_eq_ok_iff {ls : List Line} {rows : List Row} :
    rowsOfLines ls = .ok rows ↔
      List.Forall₂ (fun l r => r.line = l.number ∧ Declares l.text r.argument)
        (ls.filter fun l => !l.isBlank) rows := by
  induction ls generalizing rows with
  | nil =>
    rw [rowsOfLines, List.filter_nil, List.forall₂_nil_left_iff, Except.ok.injEq, eq_comm]
  | cons l rest ih =>
    rw [rowsOfLines, List.filter_cons]
    cases hblank : l.isBlank with
    | true => simpa using ih
    | false =>
      rw [if_neg Bool.false_ne_true, if_pos (by simp), List.forall₂_cons_left_iff]
      cases hread : l.argument with
      | error fault =>
        have hd := (Line.argument_eq_error_iff.1 hread).1
        simp only [reduceCtorEq, false_iff]
        rintro ⟨r, rows', ⟨-, hr⟩, -⟩
        exact hd ⟨_, hr⟩
      | ok a =>
        cases hrest : rowsOfLines rest with
        | error e =>
          simp only [reduceCtorEq, false_iff]
          rintro ⟨r, rows', -, hrows, -⟩
          rw [ih.2 hrows] at hrest
          cases hrest
        | ok rows' =>
          simp only [Except.ok.injEq]
          constructor
          · rintro rfl
            exact ⟨_, rows', ⟨rfl, Line.argument_eq_ok_iff.1 hread⟩, ih.1 hrest, rfl⟩
          · rintro ⟨⟨line, b⟩, rows'', ⟨hline, hb⟩, hrows, rfl⟩
            rw [Line.argument_eq_ok_iff.2 hb, Except.ok.injEq] at hread
            rw [ih.2 hrows, Except.ok.injEq] at hrest
            obtain rfl : line = l.number := hline
            obtain rfl : b = a := hread
            rw [hrest]

/-- The first failing element of a list is its head, or its head is good and it is the first
    failing one of the rest. -/
theorem exists_first_cons_iff {α : Type} (good : α → Prop) (found : List α → Prop) {x y : α}
    {l : List α} :
    (∃ before after, y :: l = before ++ x :: after ∧ (∀ z ∈ before, good z) ∧ ¬good x ∧
        found before) ↔
      (¬good y ∧ y = x ∧ found []) ∨
        good y ∧ ∃ before after, l = before ++ x :: after ∧ (∀ z ∈ before, good z) ∧ ¬good x ∧
          found (y :: before) := by
  constructor
  · rintro ⟨before, after, hl, hbefore, hx, hfound⟩
    cases before with
    | nil =>
      obtain ⟨rfl, -⟩ := List.cons.inj hl
      exact Or.inl ⟨hx, rfl, hfound⟩
    | cons z before =>
      obtain ⟨rfl, rfl⟩ := List.cons.inj hl
      rw [List.forall_mem_cons] at hbefore
      exact Or.inr ⟨hbefore.1, before, after, rfl, hbefore.2, hx, hfound⟩
  · rintro (⟨hy, rfl, hfound⟩ | ⟨hy, before, after, rfl, hbefore, hx, hfound⟩)
    · exact ⟨[], l, rfl, nofun, hy, hfound⟩
    · exact ⟨y :: before, after, rfl, List.forall_mem_cons.2 ⟨hy, hbefore⟩, hx, hfound⟩

theorem rowsOfLines_cons_of_good {l : Line} {rest : List Line} {e : Line × RowFault}
    (h : IsGoodRow l.text) :
    rowsOfLines (l :: rest) = .error e ↔ rowsOfLines rest = .error e := by
  rw [rowsOfLines]
  split
  · exact Iff.rfl
  · next hblank =>
    obtain ⟨a, ha⟩ := h.resolve_left fun hb => hblank (Line.isBlank_iff.2 hb)
    rw [Line.argument_eq_ok_iff.2 ha]
    cases rowsOfLines rest <;> simp

theorem rowsOfLines_cons_of_not_good {l : Line} {rest : List Line} (h : ¬IsGoodRow l.text) :
    rowsOfLines (l :: rest) = .error (l, faultOf l.text) := by
  have hblank : ¬l.isBlank = true := fun hb => h (Or.inl (Line.isBlank_iff.1 hb))
  have hfault : l.argument = .error (faultOf l.text) :=
    Line.argument_eq_error_iff.2 ⟨fun hd => h (Or.inr hd), rfl⟩
  rw [rowsOfLines, if_neg hblank, hfault]

/-- **The first line that is neither blank nor declares an argument ends the reading.** -/
theorem rowsOfLines_eq_error_iff {ls : List Line} {l : Line} {fault : RowFault} :
    rowsOfLines ls = .error (l, fault) ↔
      ∃ before after, ls = before ++ l :: after ∧ (∀ m ∈ before, IsGoodRow m.text) ∧
        ¬IsGoodRow l.text ∧ fault = faultOf l.text := by
  induction ls with
  | nil =>
    rw [rowsOfLines]
    simp
  | cons m rest ih =>
    rw [exists_first_cons_iff (fun m : Line => IsGoodRow m.text)
      (fun _ => fault = faultOf l.text)]
    by_cases hm : IsGoodRow m.text
    · rw [rowsOfLines_cons_of_good hm, ih]
      simp [hm]
    · rw [rowsOfLines_cons_of_not_good hm, Except.error.injEq, Prod.mk.injEq]
      simp only [hm, not_false_eq_true, true_and, false_and, or_false, and_congr_right_iff]
      rintro rfl
      exact eq_comm

theorem isGoodRow_of_rowsOfLines_eq_ok {ls : List Line} {rows : List Row}
    (h : rowsOfLines ls = .ok rows) : ∀ l ∈ ls, IsGoodRow l.text := by
  induction ls generalizing rows with
  | nil => exact nofun
  | cons m rest ih =>
    have hm : IsGoodRow m.text := by
      by_contra hm
      rw [rowsOfLines_cons_of_not_good hm] at h
      cases h
    cases hrest : rowsOfLines rest with
    | error e =>
      rw [(rowsOfLines_cons_of_good hm).2 hrest] at h
      cases h
    | ok rows' => exact List.forall_mem_cons.2 ⟨hm, ih hrest⟩

/-- Lines are read exactly when each of them has a good row. -/
theorem exists_rowsOfLines_eq_ok_iff {ls : List Line} :
    (∃ rows, rowsOfLines ls = .ok rows) ↔ ∀ l ∈ ls, IsGoodRow l.text := by
  refine ⟨fun ⟨rows, hrows⟩ => isGoodRow_of_rowsOfLines_eq_ok hrows, fun hgood => ?_⟩
  cases h : rowsOfLines ls with
  | ok rows => exact ⟨rows, rfl⟩
  | error e =>
    obtain ⟨before, after, rfl, -, hl, -⟩ := rowsOfLines_eq_error_iff.1 h
    exact absurd (hgood _ (List.mem_append_right _ List.mem_cons_self)) hl

end ArgProcessor
