/-
  ArgProcessor/Proofs/ArgumentList/Edits.lean
  ===========================================
  **Edits that change the layout of a text and not its meaning.**

  Another header, carriage returns before the line feeds, a blank line more, a line feed at the end
  (`LayoutEdit`): none of them changes what is read, and places move only as far as the edit moves
  the text (`sameButPlaces_of_edit`).

  All of them are one thing for the lines after the header.  Each line keeps its text and gets a new
  place, and blank lines may come in between (`LinesMoved`).  Reading follows such a move line by
  line, on lists of rows and on errors alike (`rowsMoved_of_linesMoved`), and the overrides follow
  whatever numbers the lines get (`overridesOf_renumber`).
-/
import ArgProcessor.Proofs.ArgumentList.FirstFault
import ArgProcessor.Proofs.ArgumentList.Writing

namespace ArgProcessor

/-! ### Results that differ in places only -/

def Row.renumber (number : Nat → Nat) (r : Row) : Row := { r with line := number r.line }

def Override.renumber (number : Nat → Nat) (o : Override) : Override :=
  { o with firstLine := number o.firstLine, line := number o.line }

section Moves

/- `number` gives the new number of a line, and `shift` by how many bytes the line of a number
   moves. -/
variable (number : Nat → Nat) (shift : Nat → Int)

/-- Reading `content` gives the second result where another text gave the first: the same list with
    other line numbers, or the same error with another line and another place. -/
inductive SameButPlaces (content : String) :
    Except MalformedRow ArgumentList → Except MalformedRow ArgumentList → Prop where
  | ok {s t : ArgumentList} (arguments : t.arguments = s.arguments)
      (overrides : t.overrides = s.overrides.map (.renumber number)) :
      SameButPlaces content (.ok s) (.ok t)
  | error {e f : MalformedRow} (source : f.source = ⟨e.source.name, content⟩)
      (line : f.line = number e.line) (row : f.row = e.row) (fault : f.fault = e.fault)
      (length : f.span.length = e.span.length)
      (offset : (f.span.offset : Int) = e.span.offset + shift e.line) :
      SameButPlaces content (.error e) (.error f)

/-- The same text at another place. -/
structure Line.MovesTo (l m : Line) : Prop where
  text_eq : m.text = l.text
  number_eq : m.number = number l.number
  offset_eq : (m.offset : Int) = l.offset + shift l.number

/-- Lines that have all moved, with blank lines between them that are new. -/
inductive LinesMoved : List Line → List Line → Prop where
  | nil : LinesMoved [] []
  | line {l m : Line} {ls ms : List Line} (moves : l.MovesTo number shift m)
      (rest : LinesMoved ls ms) : LinesMoved (l :: ls) (m :: ms)
  | blank {m : Line} {ls ms : List Line} (isBlank : m.isBlank = true) (rest : LinesMoved ls ms) :
      LinesMoved ls (m :: ms)

/-- Rows with other line numbers, or the fault of a line that has moved. -/
inductive RowsMoved :
    Except (Line × RowFault) (List Row) → Except (Line × RowFault) (List Row) → Prop where
  | ok (rows : List Row) : RowsMoved (.ok rows) (.ok (rows.map (.renumber number)))
  | error {l m : Line} (fault : RowFault) (moves : l.MovesTo number shift m) :
      RowsMoved (.error (l, fault)) (.error (m, fault))

end Moves

variable {number : Nat → Nat} {shift : Nat → Int}

/-! ### Reading lines that have moved -/

section Line

variable {l m : Line} (h : l.MovesTo number shift m)
include h

theorem Line.MovesTo.isBlank_eq : m.isBlank = l.isBlank := by
  rw [Line.isBlank, Line.isBlank, h.text_eq]

theorem Line.MovesTo.argument_eq : m.argument = l.argument := by
  rw [Line.argument, Line.argument, h.text_eq]

end Line

/-- **The rows of lines that have moved are the rows of the lines, moved.** -/
theorem rowsMoved_of_linesMoved {ls ms : List Line} (h : LinesMoved number shift ls ms) :
    RowsMoved number shift (rowsOfLines ls) (rowsOfLines ms) := by
  induction h with
  | nil => exact .ok []
  | blank isBlank _ ih =>
    rw [rowsOfLines, if_pos isBlank]
    exact ih
  | @line l m ls ms moves _ ih =>
    rw [rowsOfLines, rowsOfLines, moves.isBlank_eq, moves.argument_eq]
    split
    · exact ih
    · cases l.argument with
      | error fault => exact .error fault moves
      | ok a =>
        generalize rowsOfLines ls = before at ih
        generalize rowsOfLines ms = after at ih
        cases ih with
        | error fault moves => exact .error fault moves
        | ok rows =>
          simp only [moves.number_eq]
          exact .ok (⟨l.number, a⟩ :: rows)

theorem overridesAfter_renumber (number : Nat → Nat) (firsts rows : List Row) :
    overridesAfter (firsts.map (.renumber number)) (rows.map (.renumber number)) =
      (overridesAfter firsts rows).map (.renumber number) := by
  induction rows generalizing firsts with
  | nil => rfl
  | cons r rows ih =>
    have hfirst : (firsts.map (Row.renumber number)).find?
        (·.argument.name == (r.renumber number).argument.name) =
          (firsts.find? (·.argument.name == r.argument.name)).map (.renumber number) :=
      List.find?_map
    rw [List.map_cons, overridesAfter, overridesAfter, hfirst]
    cases firsts.find? (·.argument.name == r.argument.name) with
    | none =>
      have hnew := ih (firsts ++ [r])
      rw [List.map_append, List.map_singleton] at hnew
      exact hnew
    | some first =>
      simp only [Option.map_some, List.map_cons, ih]
      rfl

/-- The overrides among rows do not depend on the numbers of their lines. -/
theorem overridesOf_renumber (number : Nat → Nat) (rows : List Row) :
    overridesOf (rows.map (.renumber number)) = (overridesOf rows).map (.renumber number) :=
  overridesAfter_renumber number [] rows

theorem arguments_ofRows_renumber (number : Nat → Nat) (rows : List Row) :
    (ArgumentList.ofRows (rows.map (.renumber number))).arguments =
      (ArgumentList.ofRows rows).arguments := by
  have hsame : (rows.map (Row.renumber number)).map (·.argument) = rows.map (·.argument) := by
    rw [List.map_map]
    rfl
  rw [ArgumentList.ofRows, ArgumentList.ofRows, hsame]

theorem sameButPlaces_of_linesMoved {content content' : String} (name : String)
    (h : LinesMoved number shift (Line.ofText content.toList).tail
      (Line.ofText content'.toList).tail) :
    SameButPlaces number shift content' (ArgumentList.read content name)
      (ArgumentList.read content' name) := by
  have hrows := rowsMoved_of_linesMoved h
  rw [ArgumentList.read, ArgumentList.read]
  generalize rowsOfLines (Line.ofText content.toList).tail = before at hrows
  generalize rowsOfLines (Line.ofText content'.toList).tail = after at hrows
  cases hrows with
  | ok rows => exact .ok (arguments_ofRows_renumber number rows) (overridesOf_renumber number rows)
  | @error l m fault moves =>
    have htext := moves.text_eq
    refine .error rfl moves.number_eq ?_ rfl ?_ moves.offset_eq
    · exact congrArg String.ofList htext
    · exact congrArg utf8Length htext

/-! ### Lines of pieces -/

namespace LinesMoved

theorem append {ls ms ls' ms' : List Line} (h : LinesMoved number shift ls ms)
    (h' : LinesMoved number shift ls' ms') :
    LinesMoved number shift (ls ++ ls') (ms ++ ms') := by
  induction h with
  | nil => exact h'
  | line moves _ ih => exact line moves ih
  | blank isBlank _ ih => exact blank isBlank ih

/-- The same pieces, located from other places on. -/
theorem locate {n n' o o' : Nat} {ps : List (List Char)}
    (hnumber : ∀ i < ps.length, number (n + i) = n' + i)
    (hshift : ∀ i < ps.length, (o' : Int) = o + shift (n + i)) :
    LinesMoved number shift (Line.locate n o ps) (Line.locate n' o' ps) := by
  induction ps generalizing n n' o o' with
  | nil => exact nil
  | cons p ps ih =>
    rw [Line.locate, Line.locate]
    have hnext : ∀ i, n + (i + 1) = n + 1 + i := fun i => by omega
    refine line ⟨rfl, (hnumber 0 (by simp)).symm, hshift 0 (by simp)⟩ (ih ?_ ?_)
    · intro i hi
      have h := hnumber (i + 1) (by simpa using hi)
      rw [hnext] at h
      omega
    · intro i hi
      have h := hshift (i + 1) (by simpa using hi)
      rw [hnext] at h
      omega

/-- A blank piece more: the lines before it stay, and those after it move by one line and by its
    bytes. -/
theorem insert {n o : Nat} {before after : List (List Char)} {piece : List Char}
    (hblank : IsBlankRow piece)
    (hbefore : ∀ i < before.length, number (n + i) = n + i ∧ shift (n + i) = 0)
    (hafter : ∀ i < after.length, number (n + before.length + i) = n + before.length + i + 1 ∧
      shift (n + before.length + i) = utf8Length piece + 1) :
    LinesMoved number shift (Line.locate n o (before ++ after))
      (Line.locate n o (before ++ piece :: after)) := by
  rw [Line.locate_append, Line.locate_append, Line.locate]
  refine append (locate (fun i hi => (hbefore i hi).1) fun i hi => ?_)
    (blank ?_ (locate (fun i hi => ?_) fun i hi => ?_))
  · have := (hbefore i hi).2
    omega
  · rw [Line.isBlank_iff, dropReturn_eq]
    exact isBlankRow_rowOfPiece_iff.2 hblank
  · have := (hafter i hi).1
    omega
  · have := (hafter i hi).2
    omega

end LinesMoved

/-! ### The edits -/

/-- A carriage return before each line feed. -/
def withReturns (content : String) : String :=
  String.ofList (content.toList.flatMap fun c => if c = '\n' then ['\r', '\n'] else [c])

/-- A new line after the first `k` lines. -/
def insertLine (k : Nat) (line : String) (content : String) : String :=
  String.ofList
    (['\n'].intercalate ((pieces content).take k ++ line.toList :: (pieces content).drop k))

/-- An edit that turns one text into another, with what it does to the numbers of lines and, by the
    number of a line, to the place of the line in bytes. -/
inductive LayoutEdit : String → String → (Nat → Nat) → (Nat → Int) → Prop where
  /-- Another text in front of the first line feed. -/
  | header {header header' : String} (rest : String) (oneLine : '\n' ∉ header.toList)
      (oneLine' : '\n' ∉ header'.toList) :
      LayoutEdit (header ++ rest) (header' ++ rest) id
        fun _ => (utf8Length header'.toList : Int) - utf8Length header.toList
  /-- Other line ends. -/
  | returns {content : String} (noReturn : '\r' ∉ content.toList) :
      LayoutEdit content (withReturns content) id fun n => (n : Int) - 1
  /-- One more line of white space, after line `k`. -/
  | blankLine {content line : String} {k : Nat} (afterHeader : 1 ≤ k)
      (isLine : k ≤ (pieces content).length) (oneLine : '\n' ∉ line.toList)
      (isBlank : IsBlankRow line.toList) :
      LayoutEdit content (insertLine k line content) (fun n => if k < n then n + 1 else n)
        fun n => if k < n then utf8Length line.toList + 1 else 0
  /-- A line feed at the end. -/
  | lastFeed (content : String) : LayoutEdit content (content ++ "\n") id fun _ => 0

/-! ### The pieces of an edited text -/

/-- Pieces that end in a carriage return, all but the last one. -/
def returnPieces : List (List Char) → List (List Char)
  | [] => []
  | [p] => [p]
  | p :: q :: ps => (p ++ ['\r']) :: returnPieces (q :: ps)

theorem modifyHead_returnPieces (c : Char) (ps : List (List Char)) :
    (returnPieces ps).modifyHead (c :: ·) = returnPieces (ps.modifyHead (c :: ·)) := by
  match ps with
  | [] => rfl
  | [p] => rfl
  | p :: q :: ps => rfl

theorem pieces_withReturns (content : String) :
    pieces (withReturns content) = returnPieces (pieces content) := by
  rw [pieces, pieces, withReturns, String.toList_ofList]
  induction content.toList with
  | nil => rfl
  | cons c cs ih =>
    rw [List.flatMap_cons, List.splitOn_cons_eq_if_modifyHead]
    by_cases hc : c = '\n'
    · obtain ⟨p, ps, hsplit⟩ := List.exists_cons_of_ne_nil (List.splitOn_ne_nil '\n' cs)
      rw [hsplit] at ih ⊢
      simp [hc, ih, returnPieces, List.splitOn_cons_eq_if_modifyHead]
    · simp [hc, ih, List.splitOn_cons_eq_if_modifyHead, modifyHead_returnPieces]

theorem pieces_append {front rest : String} {p : List Char} {ps : List (List Char)}
    (h : '\n' ∉ front.toList) (hrest : pieces rest = p :: ps) :
    pieces (front ++ rest) = (front.toList ++ p) :: ps := by
  rw [pieces, String.toList_append]
  generalize front.toList = cs at h
  induction cs with
  | nil => exact hrest
  | cons c cs ih =>
    rw [List.mem_cons, not_or] at h
    have hc : ¬(c == '\n') = true := fun e => h.1 (beq_iff_eq.1 e).symm
    rw [List.cons_append, List.splitOn_cons_eq_if_modifyHead, if_neg hc, ih h.2,
      List.modifyHead_cons, List.cons_append]

theorem pieces_insertLine (content : String) (k : Nat) {line : String}
    (hline : '\n' ∉ line.toList) :
    pieces (insertLine k line content) =
      (pieces content).take k ++ line.toList :: (pieces content).drop k := by
  rw [insertLine, pieces, String.toList_ofList]
  refine List.splitOn_intercalate '\n' ?_ (by simp)
  intro p hp
  rw [List.mem_append, List.mem_cons] at hp
  rcases hp with hp | rfl | hp
  · exact not_mem_of_mem_splitOn (List.mem_of_mem_take hp)
  · exact hline
  · exact not_mem_of_mem_splitOn (List.mem_of_mem_drop hp)

theorem pieces_append_feed (content : String) :
    pieces (content ++ "\n") = pieces content ++ [[]] := by
  rw [pieces, pieces, String.toList_append]
  exact List.splitOn_append_cons_self content.toList []

/-! ### The lines of an edited text -/

namespace LinesMoved

theorem returnPieces {n o o' : Nat} {ps : List (List Char)} (h : ∀ p ∈ ps, '\r' ∉ p)
    (hplace : (o' : Int) = o + ((n : Int) - 1)) :
    LinesMoved id (fun n => (n : Int) - 1) (Line.locate n o ps)
      (Line.locate n o' (ArgProcessor.returnPieces ps)) := by
  match ps with
  | [] => exact nil
  | [p] => exact line ⟨rfl, rfl, hplace⟩ nil
  | p :: q :: ps =>
    rw [List.forall_mem_cons] at h
    -- the piece ends in no return of its own, so its row is the whole piece with or without one
    have hrow : rowOfPiece (p ++ ['\r']) = rowOfPiece p := by
      have hlast : ¬p.getLast? = some '\r' := fun he => h.1 (List.mem_of_getLast? he)
      rw [rowOfPiece, List.getLast?_concat, if_pos rfl, List.dropLast_concat, rowOfPiece,
        if_neg hlast]
    rw [Line.locate, ArgProcessor.returnPieces, Line.locate]
    refine line ⟨?_, rfl, hplace⟩ (returnPieces h.2 ?_)
    · rw [dropReturn_eq, dropReturn_eq, hrow]
    · have hlength : utf8Length (p ++ ['\r']) = utf8Length p + 1 := utf8Length_append p ['\r']
      omega

end LinesMoved

theorem linesMoved_header {header header' : String} (rest : String)
    (h : '\n' ∉ header.toList) (h' : '\n' ∉ header'.toList) :
    LinesMoved id (fun _ => (utf8Length header'.toList : Int) - utf8Length header.toList)
      (Line.ofText (header ++ rest).toList).tail (Line.ofText (header' ++ rest).toList).tail := by
  obtain ⟨p, ps, hsplit⟩ := List.exists_cons_of_ne_nil (List.splitOn_ne_nil '\n' rest.toList)
  rw [tail_ofText (pieces_append h hsplit), tail_ofText (pieces_append h' hsplit)]
  refine LinesMoved.locate (fun _ _ => rfl) fun _ _ => ?_
  rw [utf8Length_append, utf8Length_append]
  omega

theorem linesMoved_returns {content : String} (h : '\r' ∉ content.toList) :
    LinesMoved id (fun n => (n : Int) - 1) (Line.ofText content.toList).tail
      (Line.ofText (withReturns content).toList).tail := by
  obtain ⟨header, rest, hsplit, htail⟩ := exists_tail_ofText content
  have hpieces := pieces_withReturns content
  rw [hsplit] at hpieces
  cases rest with
  | nil =>
    rw [htail, tail_ofText hpieces]
    exact .nil
  | cons q rest =>
    have hno : ∀ p ∈ q :: rest, '\r' ∉ p := by
      intro p hp hmem
      have hpiece : p ∈ pieces content := hsplit ▸ List.mem_cons_of_mem _ hp
      exact h (mem_of_mem_splitOn hpiece hmem)
    rw [htail, tail_ofText hpieces]
    refine .returnPieces hno ?_
    have hlength : utf8Length (header ++ ['\r']) = utf8Length header + 1 :=
      utf8Length_append header ['\r']
    omega

theorem linesMoved_blankLine {content line : String} {k : Nat} (hk : 1 ≤ k)
    (hlines : k ≤ (pieces content).length) (hline : '\n' ∉ line.toList)
    (hblank : IsBlankRow line.toList) :
    LinesMoved (fun n => if k < n then n + 1 else n)
      (fun n => if k < n then utf8Length line.toList + 1 else 0)
      (Line.ofText content.toList).tail (Line.ofText (insertLine k line content).toList).tail := by
  obtain ⟨header, rest, hsplit, htail⟩ := exists_tail_ofText content
  obtain ⟨k, rfl⟩ := Nat.exists_eq_add_of_le' hk
  have hpieces := pieces_insertLine content (k + 1) hline
  rw [hsplit, List.take_succ_cons, List.drop_succ_cons, List.cons_append] at hpieces
  rw [hsplit, List.length_cons] at hlines
  have hbefore : (rest.take k).length = k := List.length_take_of_le (by omega)
  rw [htail, tail_ofText hpieces]
  nth_rewrite 1 [← List.take_append_drop k rest]
  refine .insert hblank (fun i hi => ?_) fun i hi => ?_
  · have hstays : ¬k + 1 < 2 + i := by omega
    rw [if_neg hstays, if_neg hstays]
    exact ⟨rfl, rfl⟩
  · have hmoves : k + 1 < 2 + (rest.take k).length + i := by omega
    rw [if_pos hmoves, if_pos hmoves]
    exact ⟨rfl, rfl⟩

theorem linesMoved_lastFeed (content : String) :
    LinesMoved id (fun _ => 0) (Line.ofText content.toList).tail
      (Line.ofText (content ++ "\n").toList).tail := by
  obtain ⟨header, rest, hsplit, htail⟩ := exists_tail_ofText content
  have hpieces := pieces_append_feed content
  rw [hsplit, List.cons_append] at hpieces
  rw [htail, tail_ofText hpieces]
  nth_rewrite 1 [← List.append_nil rest]
  exact .insert nofun (fun _ _ => ⟨rfl, rfl⟩) nofun

/-- **An edit of the layout changes nothing that is read but places.** -/
theorem sameButPlaces_of_edit {content content' : String} (name : String)
    (h : LayoutEdit content content' number shift) :
    SameButPlaces number shift content' (ArgumentList.read content name)
      (ArgumentList.read content' name) := by
  apply sameButPlaces_of_linesMoved name
  cases h with
  | header rest oneLine oneLine' => exact linesMoved_header rest oneLine oneLine'
  | returns noReturn => exact linesMoved_returns noReturn
  | blankLine afterHeader isLine oneLine isBlank =>
    exact linesMoved_blankLine afterHeader isLine oneLine isBlank
  | lastFeed => exact linesMoved_lastFeed content

/-- A line of one wide space, three bytes long, before the row at fault. -/
theorem sameButPlaces_of_edit_blankLine :
    ∃ content content' number shift e f,
      content = "h\na,,,,,\r\na,x" ∧ content' = "h\na,,,,,\r\n\u3000\na,x" ∧
        LayoutEdit content content' number shift ∧ number 2 = 2 ∧ number 3 = 4 ∧
        shift 2 = 0 ∧ shift 3 = 4 ∧
        ArgumentList.read content = .error e ∧ e.line = 3 ∧ e.span = ⟨10, 3⟩ ∧
        ArgumentList.read content' = .error f ∧ f.line = 4 ∧ f.span = ⟨14, 3⟩ ∧
        SameButPlaces number shift content' (.error e) (.error f) := by
  have hinsert : insertLine 2 "\u3000" "h\na,,,,,\r\na,x" = "h\na,,,,,\r\n\u3000\na,x" := rfl
  have hedit : LayoutEdit "h\na,,,,,\r\na,x" (insertLine 2 "\u3000" "h\na,,,,,\r\na,x") _ _ :=
    .blankLine (by decide) (by decide) (by decide) (by decide)
  rw [hinsert] at hedit
  exact ⟨_, _, _, _, _, _, rfl, rfl, hedit, rfl, rfl, rfl, rfl, rfl, rfl, rfl, rfl, rfl, rfl,
    sameButPlaces_of_edit ArgumentList.defaultSourceName hedit⟩

end ArgProcessor
