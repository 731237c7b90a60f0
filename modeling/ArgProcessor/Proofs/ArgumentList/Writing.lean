/-
  ArgProcessor/Proofs/ArgumentList/Writing.lean
  =============================================
  **Argument lists that are written can be read.**

  An argument list can be laid out in many ways: fields are padded, a flag that is not set is
  written as any word but `Yes`, white lines stand between the rows, and lines end with or without
  a carriage return (`Writes`).  Every list can be written as long as its names are identifiers
  and its types survive trimming, and reading gives back what was written, whatever the layout
  (`read_of_writes`).

  A carriage return at the end of a line is either part of the ending or of the padding.  Both
  readings agree, since what a row declares does not depend on a return at its end
  (`declares_rowOfPiece_iff`).
-/
import ArgProcessor.Proofs.ArgumentList.Admission

namespace ArgProcessor

/-! ### Layouts -/

/-- White space inside a line. -/
def IsPadding (cs : List Char) : Prop := ∀ c ∈ cs, Unicode.isBlank c = true ∧ c ≠ '\n'

instance : DecidablePred IsPadding := fun cs =>
  List.decidableBAll (fun c => Unicode.isBlank c = true ∧ c ≠ '\n') cs

/-- A field that holds a text between paddings. -/
def Padded (text field : List Char) : Prop :=
  ∃ left right, IsPadding left ∧ IsPadding right ∧ field = left ++ (text ++ right)

/-- The words for a flag. -/
def IsFlagWord (flag : Bool) (word : List Char) : Prop :=
  if flag then word = "Yes".toList
  else Unicode.trim word ≠ "Yes".toList ∧ ',' ∉ word ∧ '\n' ∉ word

def WritesFlag (flag : Bool) (field : List Char) : Prop :=
  ∃ word, IsFlagWord flag word ∧ Padded word field

/-- A row that holds the six fields of an argument. -/
def WritesRow (a : Argument) (row : List Char) : Prop :=
  ∃ name type mandatory existing readable writable,
    row = [','].intercalate [name, type, mandatory, existing, readable, writable] ∧
      Padded a.name.toList name ∧ Padded a.typeToken.toList type ∧
        WritesFlag a.mandatory mandatory ∧ WritesFlag a.existing existing ∧
          WritesFlag a.readable readable ∧ WritesFlag a.writable writable

/-- Lines that hold a row for each argument, and white space between the rows. -/
inductive WritesRows : List Argument → List (List Char) → Prop where
  | nil : WritesRows [] []
  | blank {l : List Argument} {line : List Char} {lines : List (List Char)}
      (padding : IsPadding line) (rest : WritesRows l lines) : WritesRows l (line :: lines)
  | row {a : Argument} {l : List Argument} {line : List Char} {lines : List (List Char)}
      (written : WritesRow a line) (rest : WritesRows l lines) :
      WritesRows (a :: l) (line :: lines)

/-- A text of lines, each of them ended in one of two ways; the last one may have no end. -/
inductive EndsLines : List (List Char) → List Char → Prop where
  | nil : EndsLines [] []
  | unended (line : List Char) : EndsLines [line] line
  | feed {line text : List Char} {lines : List (List Char)} (rest : EndsLines lines text) :
      EndsLines (line :: lines) (line ++ '\n' :: text)
  | returnFeed {line text : List Char} {lines : List (List Char)} (rest : EndsLines lines text) :
      EndsLines (line :: lines) (line ++ '\r' :: '\n' :: text)

/-- The text holds a header and then a row for each argument. -/
def Writes (l : List Argument) (content : String) : Prop :=
  ∃ header lines, '\n' ∉ header ∧ WritesRows l lines ∧ EndsLines (header :: lines) content.toList

/-- What an argument has to be like to stand in a row. -/
structure Argument.IsWritable (a : Argument) : Prop where
  name : isIdentifier a.name = true
  typeTrimmed : Unicode.trim a.typeToken.toList = a.typeToken.toList
  typeNoComma : ',' ∉ a.typeToken.toList
  typeOneLine : '\n' ∉ a.typeToken.toList

/-! ### Trimming padded fields -/

namespace Unicode

theorem trimEnd_append {cs right : List Char} (h : ∀ c ∈ right, isBlank c = true) :
    trimEnd (cs ++ right) = trimEnd cs := by
  rw [trimEnd, trimEnd, List.reverse_append, List.dropWhile_append_of_pos]
  intro c hc
  exact h c (List.mem_reverse.1 hc)

theorem trim_append {cs right : List Char} (h : ∀ c ∈ right, isBlank c = true) :
    trim (cs ++ right) = trim cs := by
  rw [trim, trim, List.dropWhile_append]
  split
  · next hblank =>
    rw [List.isEmpty_iff.1 hblank, dropWhile_isBlank_eq_nil_iff.2 h]
  · exact trimEnd_append h

theorem trim_around {left cs right : List Char} (hleft : ∀ c ∈ left, isBlank c = true)
    (hright : ∀ c ∈ right, isBlank c = true) : trim (left ++ (cs ++ right)) = trim cs := by
  rw [trim, List.dropWhile_append_of_pos hleft]
  exact trim_append hright

end Unicode

section Padded

variable {text field : List Char} (h : Padded text field)
include h

theorem Padded.trim_eq : Unicode.trim field = Unicode.trim text := by
  obtain ⟨left, right, hleft, hright, rfl⟩ := h
  exact Unicode.trim_around (fun c hc => (hleft c hc).1) fun c hc => (hright c hc).1

theorem Padded.not_mem {c : Char} (hc : Unicode.isBlank c = false ∨ c = '\n') (htext : c ∉ text) :
    c ∉ field := by
  obtain ⟨left, right, hleft, hright, rfl⟩ := h
  have hpadding : ∀ cs, IsPadding cs → c ∉ cs := by
    intro cs hcs hmem
    obtain ⟨hblank, hfeed⟩ := hcs c hmem
    rcases hc with hc | hc
    · rw [hblank] at hc
      contradiction
    · exact hfeed hc
  rw [List.mem_append, List.mem_append, not_or, not_or]
  exact ⟨hpadding left hleft, htext, hpadding right hright⟩

end Padded

/-! ### What is written in a row -/

theorem not_mem_intercalate {a c : Char} {pieces : List (List Char)} (ha : c ≠ a)
    (h : ∀ p ∈ pieces, c ∉ p) : c ∉ [a].intercalate pieces := by
  cases pieces with
  | nil => exact List.not_mem_nil
  | cons p pieces =>
    rw [List.forall_mem_cons] at h
    rw [intercalate_cons, List.mem_append, List.mem_flatMap, not_or]
    refine ⟨h.1, ?_⟩
    rintro ⟨q, hq, hmem⟩
    rcases List.mem_cons.1 hmem with rfl | hmem
    · exact ha rfl
    · exact h.2 q hq hmem

/-- The characters that end a field. -/
def EndsField (c : Char) : Prop := c = ',' ∨ c = '\n'

theorem EndsField.not_blank {c : Char} (h : EndsField c) :
    Unicode.isBlank c = false ∨ c = '\n' := by
  rcases h with rfl | rfl
  · exact Or.inl rfl
  · exact Or.inr rfl

theorem EndsField.not_word {c : Char} (h : EndsField c) : Unicode.isWordCharacter c = false := by
  rcases h with rfl | rfl <;> rfl

section Flags

variable {flag : Bool} {field : List Char} (h : WritesFlag flag field)
include h

theorem WritesFlag.reads : decide (fieldText field = "Yes") = flag := by
  obtain ⟨word, hword, hpadded⟩ := h
  rw [fieldText, hpadded.trim_eq]
  cases flag with
  | true =>
    obtain rfl : word = "Yes".toList := hword
    decide
  | false =>
    obtain ⟨hne, -⟩ : Unicode.trim word ≠ "Yes".toList ∧ _ := hword
    rw [decide_eq_false_iff_not]
    intro he
    apply hne
    rw [← he, String.toList_ofList]

theorem WritesFlag.not_mem {c : Char} (hc : EndsField c) : c ∉ field := by
  obtain ⟨word, hword, hpadded⟩ := h
  apply hpadded.not_mem hc.not_blank
  cases flag with
  | true =>
    obtain rfl : word = "Yes".toList := hword
    rcases hc with rfl | rfl <;> decide
  | false =>
    obtain ⟨-, hcomma, hfeed⟩ : _ ≠ _ ∧ ',' ∉ word ∧ '\n' ∉ word := hword
    rcases hc with rfl | rfl
    · exact hcomma
    · exact hfeed

end Flags

theorem Argument.IsWritable.type_not_mem {a : Argument} (ha : a.IsWritable) {c : Char}
    (hc : EndsField c) : c ∉ a.typeToken.toList := by
  rcases hc with rfl | rfl
  · exact ha.typeNoComma
  · exact ha.typeOneLine

theorem WritesRow.declares {a : Argument} {row : List Char} (h : WritesRow a row)
    (ha : a.IsWritable) : Declares row a ∧ '\n' ∉ row := by
  obtain ⟨name, type, mandatory, existing, readable, writable, rfl, hname, htype, hmandatory,
    hexisting, hreadable, hwritable⟩ := h
  have hout : ∀ c, EndsField c →
      ∀ f ∈ [name, type, mandatory, existing, readable, writable], c ∉ f := by
    intro c hc
    simp only [List.forall_mem_cons]
    exact ⟨hname.not_mem hc.not_blank (not_mem_of_isIdentifier ha.name hc.not_word),
      htype.not_mem hc.not_blank (ha.type_not_mem hc), hmandatory.not_mem hc,
      hexisting.not_mem hc, hreadable.not_mem hc, hwritable.not_mem hc, nofun⟩
  have hnameText : fieldText name = a.name := by
    rw [← fieldText_of_isIdentifier ha.name, fieldText, fieldText, hname.trim_eq]
  have htypeText : fieldText type = a.typeToken := by
    rw [fieldText, htype.trim_eq, ha.typeTrimmed, String.ofList_toList]
  have hdeclares := declares_intercalate (hout ',' (Or.inl rfl)) (hnameText.symm ▸ ha.name)
  rw [hnameText, htypeText, hmandatory.reads, hexisting.reads, hreadable.reads,
    hwritable.reads] at hdeclares
  exact ⟨hdeclares, not_mem_intercalate (by decide) (hout '\n' (Or.inr rfl))⟩

/-! ### Returns at the end of a line -/

theorem splitOn_concat {a c : Char} (hc : a ≠ c) {cs last : List Char} {init : List (List Char)}
    (h : cs.splitOn a = init ++ [last]) : (cs ++ [c]).splitOn a = init ++ [last ++ [c]] := by
  have hpieces : ∀ p ∈ init ++ [last], a ∉ p := fun p hp => not_mem_of_mem_splitOn (h ▸ hp)
  rw [List.forall_mem_append, List.forall_mem_singleton] at hpieces
  have hcs : cs ++ [c] = [a].intercalate (init ++ [last ++ [c]]) := by
    have hjoined : [a].intercalate (cs.splitOn a) = cs := List.intercalate_splitOn a
    rw [← hjoined, h, intercalate_append_cons, intercalate_append_cons]
    simp
  rw [hcs]
  refine List.splitOn_intercalate a ?_ (by simp)
  rw [List.forall_mem_append, List.forall_mem_singleton]
  exact ⟨hpieces.1, by simp [hpieces.2, hc]⟩

theorem rowFields_concat_return (cs : List Char) : rowFields (cs ++ ['\r']) = rowFields cs := by
  obtain ⟨init, last, hsplit⟩ : ∃ init last, cs.splitOn ',' = init ++ [last] :=
    ⟨_, _, (List.dropLast_concat_getLast (List.splitOn_ne_nil ',' cs)).symm⟩
  have hconcat := splitOn_concat (c := '\r') (by decide) hsplit
  have htrim : Unicode.trim (last ++ ['\r']) = Unicode.trim last := by
    apply Unicode.trim_append
    rw [List.forall_mem_singleton]
    rfl
  rw [rowFields, rowFields, hsplit, hconcat, List.map_append, List.map_append, List.map_singleton,
    List.map_singleton, htrim]

/-- What a row declares depends on its trimmed fields only. -/
theorem declares_iff_argumentOfFields {row : List Char} {a : Argument} :
    Declares row a ↔ argumentOfFields (rowFields row) = .ok a :=
  (Line.argument_eq_ok_iff (l := ⟨0, 0, row⟩)).symm

theorem rowOfPiece_cases (piece : List Char) :
    rowOfPiece piece = piece ∨ piece = rowOfPiece piece ++ ['\r'] := by
  unfold rowOfPiece
  split
  · next h =>
    obtain ⟨cs, rfl⟩ := List.getLast?_eq_some_iff.1 h
    exact Or.inr (by rw [List.dropLast_concat])
  · exact Or.inl rfl

theorem declares_concat_return {cs : List Char} {a : Argument} :
    Declares (cs ++ ['\r']) a ↔ Declares cs a := by
  rw [declares_iff_argumentOfFields, declares_iff_argumentOfFields, rowFields_concat_return]

theorem isBlankRow_concat_return {cs : List Char} : IsBlankRow (cs ++ ['\r']) ↔ IsBlankRow cs := by
  rw [IsBlankRow, IsBlankRow, List.forall_mem_append, List.forall_mem_singleton]
  exact and_iff_left rfl

theorem declares_rowOfPiece_iff {piece : List Char} {a : Argument} :
    Declares (rowOfPiece piece) a ↔ Declares piece a := by
  rcases rowOfPiece_cases piece with h | h
  · rw [h]
  · conv_rhs => rw [h]
    exact declares_concat_return.symm

theorem isBlankRow_rowOfPiece_iff {piece : List Char} :
    IsBlankRow (rowOfPiece piece) ↔ IsBlankRow piece := by
  rcases rowOfPiece_cases piece with h | h
  · rw [h]
  · conv_rhs => rw [h]
    exact isBlankRow_concat_return.symm

/-! ### From lines to rows -/

/-- The piece is the line, or the line with a return at its end. -/
def IsPieceOf (line piece : List Char) : Prop := piece = line ∨ piece = line ++ ['\r']

theorem IsPieceOf.isBlankRow_iff {line piece : List Char} (h : IsPieceOf line piece) :
    IsBlankRow (rowOfPiece piece) ↔ IsBlankRow line := by
  rw [isBlankRow_rowOfPiece_iff]
  rcases h with rfl | rfl
  · rfl
  · exact isBlankRow_concat_return

theorem IsPieceOf.declares_iff {line piece : List Char} (h : IsPieceOf line piece)
    {a : Argument} : Declares (rowOfPiece piece) a ↔ Declares line a := by
  rw [declares_rowOfPiece_iff]
  rcases h with rfl | rfl
  · rfl
  · exact declares_concat_return

/-- The pieces between line feeds are those of the lines; a piece of nothing follows the last line
    that is ended. -/
theorem EndsLines.splitOn {lines : List (List Char)} {text : List Char}
    (h : EndsLines lines text) (hfeed : ∀ line ∈ lines, '\n' ∉ line) :
    ∃ ps rest, text.splitOn '\n' = ps ++ rest ∧
      List.Forall₂ IsPieceOf lines ps ∧ ∀ p ∈ rest, p = [] := by
  induction h with
  | nil => exact ⟨[], [[]], rfl, .nil, by simp⟩
  | unended line =>
    rw [List.forall_mem_singleton] at hfeed
    exact ⟨[line], [], List.splitOn_eq_singleton hfeed, .cons (Or.inl rfl) .nil, nofun⟩
  | @feed line text lines _ ih =>
    rw [List.forall_mem_cons] at hfeed
    obtain ⟨ps, rest, hsplit, hps, hrest⟩ := ih hfeed.2
    refine ⟨line :: ps, rest, ?_, .cons (Or.inl rfl) hps, hrest⟩
    rw [List.splitOn_append_cons_self, List.splitOn_eq_singleton hfeed.1, hsplit]
    rfl
  | @returnFeed line text lines _ ih =>
    rw [List.forall_mem_cons] at hfeed
    obtain ⟨ps, rest, hsplit, hps, hrest⟩ := ih hfeed.2
    refine ⟨(line ++ ['\r']) :: ps, rest, ?_, .cons (Or.inr rfl) hps, hrest⟩
    -- only the line feed ends a piece, so the return stays in it
    have hreturn : '\n' ∉ line ++ ['\r'] := by simp [hfeed.1]
    have htext : line ++ '\r' :: '\n' :: text = (line ++ ['\r']) ++ '\n' :: text := by simp
    rw [htext, List.splitOn_append_cons_self, List.splitOn_eq_singleton hreturn, hsplit]
    rfl

theorem not_isBlankRow_of_declares {row : List Char} {a : Argument} (h : Declares row a) :
    ¬IsBlankRow row := by
  obtain ⟨name, type, mandatory, existing, readable, writable, hsplit, -⟩ := h
  intro hblank
  have hcomma : ',' ∉ row := fun hmem => by
    have := hblank ',' hmem
    contradiction
  rw [List.splitOn_eq_singleton hcomma] at hsplit
  simp at hsplit

theorem WritesRows.oneLine {l : List Argument} {lines : List (List Char)}
    (h : WritesRows l lines) (hl : ∀ a ∈ l, a.IsWritable) : ∀ line ∈ lines, '\n' ∉ line := by
  induction h with
  | nil => exact nofun
  | blank padding _ ih =>
    rw [List.forall_mem_cons]
    exact ⟨fun hmem => (padding _ hmem).2 rfl, ih hl⟩
  | row written _ ih =>
    rw [List.forall_mem_cons] at hl ⊢
    exact ⟨(written.declares hl.1).2, ih hl.2⟩

/-- The pieces of written lines that are not blank declare the arguments. -/
theorem WritesRows.declares {l : List Argument} {lines ps : List (List Char)}
    (h : WritesRows l lines) (hl : ∀ a ∈ l, a.IsWritable) (hps : List.Forall₂ IsPieceOf lines ps) :
    List.Forall₂ Declares ((ps.map rowOfPiece).filter (¬IsBlankRow ·)) l := by
  induction h generalizing ps with
  | nil =>
    rw [List.forall₂_nil_left_iff] at hps
    subst hps
    exact .nil
  | blank padding _ ih =>
    obtain ⟨p, ps', hp, hps', rfl⟩ := List.forall₂_cons_left_iff.1 hps
    have hblank : IsBlankRow (rowOfPiece p) := hp.isBlankRow_iff.2 fun c hc => (padding c hc).1
    rw [List.map_cons, List.filter_cons_of_neg (by simpa using hblank)]
    exact ih hl hps'
  | row written _ ih =>
    obtain ⟨p, ps', hp, hps', rfl⟩ := List.forall₂_cons_left_iff.1 hps
    rw [List.forall_mem_cons] at hl
    have hdeclares := hp.declares_iff.2 (written.declares hl.1).1
    have hblank := not_isBlankRow_of_declares hdeclares
    rw [List.map_cons, List.filter_cons_of_pos (by simpa using hblank)]
    exact .cons hdeclares (ih hl.2 hps')

/-! ### Reading what was written -/

theorem declares_rightUnique : Relator.RightUnique Declares := by
  intro row a b ha hb
  rw [declares_iff_argumentOfFields] at ha hb
  rw [ha, Except.ok.injEq] at hb
  exact hb

namespace ArgumentList

theorem exists_read_of_declares {content : String} {l : List Argument} (name : String)
    (h : List.Forall₂ Declares ((rowTexts content).tail.filter (¬IsBlankRow ·)) l) :
    ∃ s, read content name = .ok s ∧ s.arguments = (ofArguments l).arguments := by
  -- a row is blank, or it is one of those that declare an argument of the list
  have hgood : ∀ line ∈ (Line.ofText content.toList).tail, IsGoodRow line.text := by
    rw [← List.forall_mem_map, Line.map_text_ofText]
    intro row hrow
    by_cases hblank : IsBlankRow row
    · exact Or.inl hblank
    · have hfilter : row ∈ (rowTexts content).tail.filter (¬IsBlankRow ·) :=
        List.mem_filter.2 ⟨hrow, decide_eq_true hblank⟩
      obtain ⟨a, -, ha⟩ := (exists_of_mem_forall₂ h).1 row hfilter
      exact Or.inr ⟨a, ha⟩
  obtain ⟨rows, hrows⟩ := exists_rowsOfLines_eq_ok_iff.2 hgood
  have hread := forall₂_declares hrows
  rw [Line.map_text_ofText] at hread
  obtain rfl := List.right_unique_forall₂' declares_rightUnique h hread
  exact ⟨_, read_eq_ok_iff.2 ⟨rows, hrows, rfl⟩, rfl⟩

end ArgumentList

/-- The plainest text for a flag. -/
def flagWord (flag : Bool) : List Char := if flag then "Yes".toList else []

/-- The plainest row for an argument. -/
def Argument.plainRow (a : Argument) : List Char :=
  [','].intercalate [a.name.toList, a.typeToken.toList, flagWord a.mandatory,
    flagWord a.existing, flagWord a.readable, flagWord a.writable]

theorem padded_self (text : List Char) : Padded text text :=
  ⟨[], [], nofun, nofun, by simp⟩

theorem writesFlag_flagWord (flag : Bool) : WritesFlag flag (flagWord flag) := by
  refine ⟨_, ?_, padded_self _⟩
  cases flag with
  | true => rfl
  | false => exact ⟨by decide, List.not_mem_nil, List.not_mem_nil⟩

theorem writesRow_plainRow (a : Argument) : WritesRow a a.plainRow :=
  ⟨_, _, _, _, _, _, rfl, padded_self _, padded_self _, writesFlag_flagWord _,
    writesFlag_flagWord _, writesFlag_flagWord _, writesFlag_flagWord _⟩

theorem endsLines_closed (lines : List (List Char)) : EndsLines lines (closed '\n' lines) := by
  induction lines with
  | nil => exact .nil
  | cons line lines ih =>
    rw [closed_cons]
    exact .feed ih

theorem exists_writes (l : List Argument) : ∃ content, Writes l content := by
  have hrows : WritesRows l (l.map Argument.plainRow) := by
    induction l with
    | nil => exact .nil
    | cons a l ih => exact .row (writesRow_plainRow a) ih
  refine ⟨String.ofList (closed '\n' ([] :: l.map Argument.plainRow)), [], _, List.not_mem_nil,
    hrows, ?_⟩
  rw [String.toList_ofList]
  exact endsLines_closed _

namespace ArgumentList

/-- **What is written is read.** -/
theorem read_of_writes {l : List Argument} (hl : ∀ a ∈ l, a.IsWritable) :
    (∃ content, Writes l content) ∧
      ∀ content name, Writes l content →
        ∃ s, read content name = .ok s ∧ s.arguments = (ofArguments l).arguments := by
  refine ⟨exists_writes l, ?_⟩
  rintro content name ⟨header, lines, hheader, hlines, hends⟩
  have hfeed : ∀ line ∈ header :: lines, '\n' ∉ line :=
    List.forall_mem_cons.2 ⟨hheader, hlines.oneLine hl⟩
  obtain ⟨ps, rest, hsplit, hps, hrest⟩ := hends.splitOn hfeed
  obtain ⟨p, ps', -, hps', rfl⟩ := List.forall₂_cons_left_iff.1 hps
  apply exists_read_of_declares
  have hblank : (rest.map rowOfPiece).filter (¬IsBlankRow ·) = [] := by
    rw [List.filter_eq_nil_iff]
    intro row hrow
    obtain ⟨q, hq, rfl⟩ := List.mem_map.1 hrow
    rw [hrest q hq]
    decide
  have htexts : (rowTexts content).tail = ps'.map rowOfPiece ++ rest.map rowOfPiece := by
    rw [rowTexts, pieces, hsplit, List.map_append]
    rfl
  rw [htexts, List.filter_append, hblank, List.append_nil]
  exact hlines.declares hl hps'

/-- Padding with returns, words for flags that are almost `Yes`, and no end of the last line. -/
theorem read_of_writes_padded :
    ∃ content s,
      content = "\r\n\u3000in,a b ,\tYes,yes,,Yes\r\n \r\r\nin\r,,Yes .,No\r,, Yes\r" ∧
        read content = .ok s ∧ s.arguments = [⟨"in", "", false, false, false, true⟩] := by
  have hwritable : ∀ a ∈ [⟨"in", "a b", true, false, false, true⟩,
      (⟨"in", "", false, false, false, true⟩ : Argument)], a.IsWritable := by
    simp only [List.forall_mem_cons]
    exact ⟨⟨by decide, by decide, by decide, by decide⟩,
      ⟨by decide, by decide, by decide, by decide⟩, nofun⟩
  have hfirst : WritesRow ⟨"in", "a b", true, false, false, true⟩
      "\u3000in,a b ,\tYes,yes,,Yes".toList :=
    ⟨"\u3000in".toList, "a b ".toList, "\tYes".toList, "yes".toList, [], "Yes".toList, by decide,
      ⟨['\u3000'], [], by decide, by decide, by decide⟩,
      ⟨[], [' '], by decide, by decide, by decide⟩,
      ⟨_, rfl, ['\t'], [], by decide, by decide, by decide⟩,
      ⟨_, ⟨by decide, by decide, by decide⟩, padded_self _⟩, writesFlag_flagWord false,
      writesFlag_flagWord true⟩
  have hsecond : WritesRow ⟨"in", "", false, false, false, true⟩
      "in\r,,Yes .,No\r,, Yes\r".toList :=
    ⟨"in\r".toList, [], "Yes .".toList, "No\r".toList, [], " Yes\r".toList, by decide,
      ⟨[], ['\r'], by decide, by decide, by decide⟩, padded_self _,
      ⟨_, ⟨by decide, by decide, by decide⟩, padded_self _⟩,
      ⟨_, ⟨by decide, by decide, by decide⟩, padded_self _⟩, writesFlag_flagWord false,
      ⟨_, rfl, [' '], ['\r'], by decide, by decide, by decide⟩⟩
  have hblank : IsPadding " \r".toList := by decide
  have hcontent : "\r\n\u3000in,a b ,\tYes,yes,,Yes\r\n \r\r\nin\r,,Yes .,No\r,, Yes\r".toList =
      '\r' :: '\n' :: ("\u3000in,a b ,\tYes,yes,,Yes".toList ++ '\r' :: '\n' ::
        (" \r".toList ++ '\r' :: '\n' :: "in\r,,Yes .,No\r,, Yes\r".toList)) := by
    decide
  have hends : EndsLines [[], "\u3000in,a b ,\tYes,yes,,Yes".toList, " \r".toList,
      "in\r,,Yes .,No\r,, Yes\r".toList]
      "\r\n\u3000in,a b ,\tYes,yes,,Yes\r\n \r\r\nin\r,,Yes .,No\r,, Yes\r".toList := by
    rw [hcontent]
    exact .returnFeed (.returnFeed (.returnFeed (.unended _)))
  have hwrites : Writes [⟨"in", "a b", true, false, false, true⟩,
      ⟨"in", "", false, false, false, true⟩]
      "\r\n\u3000in,a b ,\tYes,yes,,Yes\r\n \r\r\nin\r,,Yes .,No\r,, Yes\r" :=
    ⟨_, _, by decide, .row hfirst (.blank hblank (.row hsecond .nil)), hends⟩
  obtain ⟨s, hread, harguments⟩ := (read_of_writes hwritable).2 _ defaultSourceName hwrites
  exact ⟨_, s, rfl, hread, harguments⟩

end ArgumentList

end ArgProcessor
