/-
  ArgProcessor/Proofs/ArgumentList/FirstFault.lean
  ================================================
  **The error of a text points at its first row at fault.**

  Reading fails exactly at the first row after the header that is neither blank nor declares an
  argument, and the error is put together from that row and from the pieces before it
  (`read_eq_error_iff`).  So it points at the bytes of the row and at nothing else, and what
  follows in the text does not change it (`pointsAtFirstFault_of_read`).
-/
import ArgProcessor.ArgumentList.Reading
import ArgProcessor.Proofs.ArgumentList.Grammar
import ArgProcessor.Proofs.Text.Utf8

namespace ArgProcessor

/-- The error names the first row at fault of a text and points at its bytes. -/
structure PointsAtFirstFault (content : String) (e : MalformedRow) : Prop where
  afterHeader : 2 ≤ e.line
  earlierGood : ∀ n, 2 ≤ n → n < e.line →
    ∃ row, (rowTexts content)[n - 1]? = some row ∧ IsGoodRow row
  isRow : (rowTexts content)[e.line - 1]? = some e.row.toList
  notGood : ¬IsGoodRow e.row.toList
  inside : e.span.offset + e.span.length ≤ (utf8Bytes content).length
  bytes : ((utf8Bytes content).drop e.span.offset).take e.span.length = utf8Bytes e.row
  startsLine : ((utf8Bytes content).take e.span.offset).getLast? = some 10
  lineFeeds : ((utf8Bytes content).take e.span.offset).count 10 = e.line - 1
  wrongColumns : e.row.toList.count ',' + 1 ≠ 6 →
    e.fault.reason = "expected 6 columns, found " ++ toString (e.row.toList.count ',' + 1)
  emptyName : e.row.toList.count ',' + 1 = 6 → firstField e.row.toList = "" →
    e.fault.reason = "argument name is empty"
  notIdentifier : e.row.toList.count ',' + 1 = 6 → firstField e.row.toList ≠ "" →
    e.fault.reason =
      "argument name '" ++ firstField e.row.toList ++ "' is not an identifier"

/-! ### The error of a row -/

/-- The error of the row of `piece`, which comes after the pieces `before`. -/
def faultyRow (source : SourceText) (before : List (List Char)) (piece : List Char) :
    MalformedRow where
  source := source
  span := ⟨utf8Length (closed '\n' before), utf8Length (rowOfPiece piece)⟩
  line := before.length + 1
  row := String.ofList (rowOfPiece piece)
  fault := faultOf (rowOfPiece piece)

/-- Some row after the header is at fault, and all rows before it are good. -/
structure IsFirstFault (content : String) (before : List (List Char)) (piece : List Char) :
    Prop where
  split : ∃ after, pieces content = before ++ piece :: after
  afterHeader : before ≠ []
  earlierGood : ∀ p ∈ before.tail, IsGoodRow (rowOfPiece p)
  notGood : ¬IsGoodRow (rowOfPiece piece)

/-- The lines after the header of a text, located. -/
theorem tail_ofText {content : String} {header : List Char} {rest : List (List Char)}
    (h : pieces content = header :: rest) :
    (Line.ofText content.toList).tail = Line.locate 2 (utf8Length header + 1) rest := by
  rw [pieces] at h
  rw [Line.ofText, h, Line.locate, List.tail_cons, Nat.zero_add]

theorem exists_tail_ofText (content : String) :
    ∃ header rest, pieces content = header :: rest ∧
      (Line.ofText content.toList).tail = Line.locate 2 (utf8Length header + 1) rest := by
  obtain ⟨header, rest, hsplit⟩ :=
    List.exists_cons_of_ne_nil (List.splitOn_ne_nil '\n' content.toList)
  exact ⟨header, rest, hsplit, tail_ofText hsplit⟩

theorem read_eq_error_iff_rowsOfLines {content name : String} {e : MalformedRow} :
    ArgumentList.read content name = .error e ↔
      ∃ l fault, rowsOfLines (Line.ofText content.toList).tail = .error (l, fault) ∧
        e = .ofLine ⟨name, content⟩ l fault := by
  rw [ArgumentList.read]
  cases h : rowsOfLines (Line.ofText content.toList).tail with
  | ok rows => simp
  | error e' =>
    rw [Except.error.injEq]
    constructor
    · rintro rfl
      exact ⟨e'.1, e'.2, rfl, rfl⟩
    · rintro ⟨l, fault, hl, rfl⟩
      rw [Except.error.inj hl]

theorem faultyRow_cons (source : SourceText) (header : List Char) (before : List (List Char))
    (piece : List Char) :
    faultyRow source (header :: before) piece =
      .ofLine source ⟨2 + before.length, utf8Length header + 1 + utf8Length (closed '\n' before),
        rowOfPiece piece⟩ (faultOf (rowOfPiece piece)) := by
  have hline : before.length + 1 + 1 = 2 + before.length := by omega
  rw [faultyRow, utf8Length_closed_cons, List.length_cons, hline]
  rfl

theorem read_eq_error_iff {content name : String} {e : MalformedRow} :
    ArgumentList.read content name = .error e ↔
      ∃ before piece, IsFirstFault content before piece ∧
        e = faultyRow ⟨name, content⟩ before piece := by
  obtain ⟨header, rest, hsplit, htail⟩ := exists_tail_ofText content
  rw [read_eq_error_iff_rowsOfLines, htail]
  constructor
  · rintro ⟨l, fault, hrows, rfl⟩
    obtain ⟨ms, after, hls, hgood, hl, rfl⟩ := rowsOfLines_eq_error_iff.1 hrows
    obtain ⟨before, piece, rest', rfl, rfl, rfl⟩ :=
      Line.exists_locate_eq_append_cons_iff.1 ⟨after, hls⟩
    refine ⟨header :: before, piece, ⟨⟨rest', hsplit⟩, List.cons_ne_nil _ _, ?_, hl⟩, ?_⟩
    · exact Line.forall_mem_locate_iff.1 hgood
    · rw [faultyRow_cons]
  · rintro ⟨before, piece, hfirst, rfl⟩
    obtain ⟨rest', hrest⟩ := hfirst.split
    cases before with
    | nil => exact absurd rfl hfirst.afterHeader
    | cons header' before =>
      rw [hsplit] at hrest
      obtain ⟨rfl, rfl⟩ := List.cons.inj hrest
      obtain ⟨after, hls⟩ := Line.exists_locate_eq_append_cons_iff.2
        ⟨before, piece, rest', rfl, rfl, rfl⟩
      refine ⟨_, _, rowsOfLines_eq_error_iff.2
        ⟨_, after, hls, ?_, hfirst.notGood, rfl⟩, faultyRow_cons _ _ _ _⟩
      exact Line.forall_mem_locate_iff.2 hfirst.earlierGood

/-! ### The bytes of a text -/

theorem utf8Bytes_of_pieces {content : String} {before after : List (List Char)}
    {piece : List Char} (h : pieces content = before ++ piece :: after) :
    ∃ rest, utf8Bytes content =
      utf8Bytes (String.ofList (closed '\n' before)) ++
        (utf8Bytes (String.ofList (rowOfPiece piece)) ++ rest) := by
  obtain ⟨rest, hcontent⟩ := eq_append_of_splitOn h
  obtain ⟨tail, htail⟩ := rowOfPiece_append piece
  refine ⟨utf8Bytes (String.ofList (tail ++ rest)), ?_⟩
  have hchars : content.toList = closed '\n' before ++ (rowOfPiece piece ++ (tail ++ rest)) := by
    rw [hcontent, ← List.append_assoc (rowOfPiece piece), ← htail]
  rw [← utf8Bytes_ofList_append, ← utf8Bytes_ofList_append, ← hchars, String.ofList_toList]

/-! ### Where the error points -/

theorem IsFirstFault.earlierRow {content : String} {before : List (List Char)} {piece : List Char}
    (h : IsFirstFault content before piece) {n : Nat} (hn : 2 ≤ n) (hbefore : n ≤ before.length) :
    ∃ row, (rowTexts content)[n - 1]? = some row ∧ IsGoodRow row := by
  obtain ⟨after, hsplit⟩ := h.split
  have hgood := h.earlierGood
  cases before with
  | nil => exact absurd rfl h.afterHeader
  | cons header before =>
    obtain ⟨k, rfl⟩ := Nat.exists_eq_add_of_le hn
    have hk : k < before.length := by
      rw [List.length_cons] at hbefore
      omega
    refine ⟨rowOfPiece before[k], ?_, hgood _ (List.getElem_mem hk)⟩
    rw [rowTexts, hsplit, List.getElem?_map, show 2 + k - 1 = k + 1 by omega, List.cons_append,
      List.getElem?_cons_succ, List.getElem?_append_left hk, List.getElem?_eq_getElem hk,
      Option.map_some]

theorem pointsAtFirstFault_faultyRow {content name : String} {before : List (List Char)}
    {piece : List Char} (h : IsFirstFault content before piece) :
    PointsAtFirstFault content (faultyRow ⟨name, content⟩ before piece) := by
  obtain ⟨after, hsplit⟩ := h.split
  obtain ⟨rest, hbytes⟩ := utf8Bytes_of_pieces hsplit
  have hoffset := length_utf8Bytes_ofList (closed '\n' before)
  have hlength := length_utf8Bytes_ofList (rowOfPiece piece)
  have htake : (utf8Bytes content).take (utf8Length (closed '\n' before)) =
      utf8Bytes (String.ofList (closed '\n' before)) := by
    rw [hbytes, List.take_left' hoffset]
  have hnewline : ∀ p ∈ before, '\n' ∉ p := fun p hp =>
    not_mem_of_mem_splitOn (hsplit ▸ List.mem_append_left _ hp : p ∈ pieces content)
  have hrow : (faultyRow ⟨name, content⟩ before piece).row.toList = rowOfPiece piece :=
    String.toList_ofList
  constructor
  case afterHeader => exact Nat.succ_le_succ (List.length_pos_of_ne_nil h.afterHeader)
  case earlierGood => exact fun n hn hline => h.earlierRow hn (Nat.le_of_lt_succ hline)
  case isRow =>
    rw [hrow, rowTexts, hsplit]
    simp [faultyRow]
  case notGood => exact hrow ▸ h.notGood
  case inside =>
    rw [hbytes, List.length_append, List.length_append, hoffset, hlength]
    exact Nat.add_le_add_left (Nat.le_add_right _ _) _
  case bytes =>
    change ((utf8Bytes content).drop (utf8Length (closed '\n' before))).take
      (utf8Length (rowOfPiece piece)) = _
    rw [hbytes, List.drop_left' hoffset, List.take_left' hlength]
    rfl
  case startsLine =>
    exact htake ▸ getLast?_utf8Bytes_of_lineFeed (getLast?_closed h.afterHeader)
  case lineFeeds =>
    change ((utf8Bytes content).take (utf8Length (closed '\n' before))).count 10 = before.length
    rw [htake, count_lineFeed_utf8Bytes, count_closed hnewline]
  case wrongColumns => exact hrow ▸ reason_faultOf_of_count_ne
  case emptyName => exact hrow ▸ reason_faultOf_of_empty
  case notIdentifier => exact hrow ▸ reason_faultOf_of_ne_empty

/-- An error depends on the pieces up to its row only. -/
theorem isFirstFault_of_take_eq {content content' : String} {before : List (List Char)}
    {piece : List Char} (h : IsFirstFault content before piece)
    (htake : (pieces content').take (before.length + 1) =
      (pieces content).take (before.length + 1)) :
    IsFirstFault content' before piece := by
  obtain ⟨after, hsplit⟩ := h.split
  have htaken : (pieces content').take (before.length + 1) = before ++ [piece] := by
    rw [htake, hsplit, List.take_length_add_append, List.take_one]
    rfl
  refine ⟨⟨(pieces content').drop (before.length + 1), ?_⟩, h.afterHeader, h.earlierGood,
    h.notGood⟩
  calc pieces content'
    _ = (pieces content').take (before.length + 1) ++ (pieces content').drop (before.length + 1) :=
      (List.take_append_drop _ _).symm
    _ = before ++ piece :: (pieces content').drop (before.length + 1) := by
      rw [htaken, List.append_assoc, List.singleton_append]

/-- **The error of a text points at the first row at fault**, and every text with the same lines up
    to there has the same error. -/
theorem pointsAtFirstFault_of_read {content name : String} {e : MalformedRow}
    (h : ArgumentList.read content name = .error e) :
    PointsAtFirstFault content e ∧
      ∀ content' name', (pieces content').take e.line = (pieces content).take e.line →
        ArgumentList.read content' name' = .error { e with source := ⟨name', content'⟩ } := by
  obtain ⟨before, piece, hfirst, rfl⟩ := read_eq_error_iff.1 h
  refine ⟨pointsAtFirstFault_faultyRow hfirst, fun content' name' htake => ?_⟩
  exact read_eq_error_iff.2 ⟨before, piece, isFirstFault_of_take_eq hfirst htake, rfl⟩

/-- A row with letters of two bytes, after lines that end in a carriage return. -/
theorem pointsAtFirstFault_of_read_crlf :
    ∃ content e,
      content = "é\r\n\r\na,,,,,\r\n ß,ü\r\nz" ∧
        ArgumentList.read content = .error e ∧
          e.span = ⟨14, 6⟩ ∧ e.line = 4 ∧ e.row = " ß,ü" ∧
            e.fault.reason = "expected 6 columns, found 2" ∧ PointsAtFirstFault content e ∧
              ArgumentList.read "é\r\n\r\na,,,,,\r\n ß,ü\r" =
                .error { e with source := ⟨"arguments.csv", "é\r\n\r\na,,,,,\r\n ß,ü\r"⟩ } := by
  have hread : ArgumentList.read "é\r\n\r\na,,,,,\r\n ß,ü\r\nz" = .error
      ⟨⟨"arguments.csv", "é\r\n\r\na,,,,,\r\n ß,ü\r\nz"⟩, ⟨14, 6⟩, 4, " ß,ü",
        .wrongColumnCount 2⟩ := rfl
  obtain ⟨hpoints, hsame⟩ := pointsAtFirstFault_of_read hread
  exact ⟨_, _, rfl, hread, rfl, rfl, rfl, rfl, hpoints, hsame _ _ (by decide)⟩

end ArgProcessor
