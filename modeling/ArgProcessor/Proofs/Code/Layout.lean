/-
  ArgProcessor/Proofs/Code/Layout.lean
  ====================================
  **Well nested code is well laid out.**

  A tree of code is well nested when each of its lines leaves the open brackets as they are, and
  each block opens its brackets in the header, one brace among them, and closes the same ones in
  its close (`Code.WellNested`).  Nothing is asked about a literal inside such a line.

  The invariant goes line by line: with as many braces open as the tree stands deep, each line is
  moved in by that many levels, and after the tree the same brackets are open (`Laid`,
  `Code.WellNested.laid`).  Read as a text, the lines of the tree are then well laid out
  (`Laid.wellLaidOut`): the brackets close, no literal goes over the end of a line, and the
  indentation of every line shows how many braces are open before it.
-/
import ArgProcessor.Code.Basic
import ArgProcessor.Proofs.Code.Reader
import ArgProcessor.Proofs.Text.Lines

namespace ArgProcessor

/-! ### The layout of a text -/

/-- How many braces are open. -/
def openBraces (opened : List Char) : Nat := opened.count '\x7b'

/-- A line that is not empty is moved in by four spaces for each open brace, or by four less if
    its first character closes one. -/
def Indented (braces : Nat) (line : List Char) : Prop :=
  line ≠ [] →
    (line.takeWhile (· == ' ')).length +
      (if (line.dropWhile (· == ' ')).head? = some '\x7d' then 4 else 0) = 4 * braces

/-- Read from its start, a text ends with no bracket and no literal open; every line starts and
    ends in code, and is moved in by the braces that are open before it. -/
structure WellLaidOut (text : List Char) : Prop where
  closed : Reader.read {} text = some {}
  lines : ∀ before line, IsLineAfter text before line →
    ∃ opened opened', Reader.read {} before = some ⟨opened, .code⟩ ∧
      Reader.read ⟨opened, .code⟩ line = some ⟨opened', .code⟩ ∧
      Indented (openBraces opened) line

/-! ### Indented lines -/

/-- The first character of a line is neither a blank nor a closing brace. -/
def StartsPlainly (text : String) : Prop := ∃ c, text.toList.head? = some c ∧ c ≠ ' ' ∧ c ≠ '\x7d'

theorem toList_indented (depth : Nat) (text : String) :
    (indented depth text).toList = List.replicate (4 * depth) ' ' ++ text.toList := by
  simp [indented, indentation]

theorem takeWhile_spaces {cs : List Char} {c : Char} (h : cs.head? = some c) (hc : c ≠ ' ')
    (n : Nat) : (List.replicate n ' ' ++ cs).takeWhile (· == ' ') = List.replicate n ' ' := by
  obtain ⟨ds, rfl⟩ := List.head?_eq_some_iff.1 h
  induction n with
  | zero => simp [hc]
  | succ n ih => simpa [List.replicate_succ] using ih

theorem dropWhile_spaces {cs : List Char} {c : Char} (h : cs.head? = some c) (hc : c ≠ ' ')
    (n : Nat) : (List.replicate n ' ' ++ cs).dropWhile (· == ' ') = cs := by
  obtain ⟨ds, rfl⟩ := List.head?_eq_some_iff.1 h
  induction n with
  | zero => simp [hc]
  | succ n ih => simpa [List.replicate_succ] using ih

theorem indented_of_startsPlainly {text : String} (h : StartsPlainly text) (depth : Nat) :
    Indented depth (indented depth text).toList := by
  obtain ⟨c, hhead, hblank, hbrace⟩ := h
  intro _
  rw [toList_indented, takeWhile_spaces hhead hblank, dropWhile_spaces hhead hblank, hhead]
  simp [hbrace]

theorem indented_of_closes {text : String} (h : text.toList.head? = some '\x7d') (depth : Nat) :
    Indented (depth + 1) (indented depth text).toList := by
  intro _
  rw [toList_indented, takeWhile_spaces h (by decide), dropWhile_spaces h (by decide), h]
  simp [Nat.mul_add]

theorem Leads.indented {text : String} {before after : List Char} (h : Leads text before after)
    (depth : Nat) : Leads (indented depth text) before after where
  oneLine := by
    rw [toList_indented, List.mem_append, List.mem_replicate]
    rintro (hspace | htext)
    · exact absurd hspace.2 (by decide)
    · exact h.oneLine htext
  reads outer := by
    have hspaces : ∀ n, Reader.read ⟨before ++ outer, .code⟩ (List.replicate n ' ') =
        some ⟨before ++ outer, .code⟩ := by
      intro n
      induction n with
      | zero => rfl
      | succ n ih => exact ih
    rw [toList_indented, Reader.read_append_of_eq (hspaces _)]
    exact h.reads outer

/-! ### Well nested code -/

namespace Code

/-- Code whose lines leave the open brackets as they are, and whose blocks close what they
    open. -/
inductive WellNested : Code → Prop where
  | line {text : String} (reads : Leads text [] []) (starts : StartsPlainly text) :
      WellNested (.line text)
  | blank : WellNested .blank
  | block {header close : String} {body : List Code} {opened : List Char}
      (headerReads : Leads header [] opened) (headerStarts : StartsPlainly header)
      (oneBrace : openBraces opened = 1)
      (closeReads : Leads close opened []) (closeStarts : close.toList.head? = some '\x7d')
      (bodyNested : ∀ c ∈ body, WellNested c) :
      WellNested (.block header close body)

end Code

/-- Lines that lead a reader from some open brackets to others, each of them moved in by the
    braces that are open before it. -/
inductive Laid : List Char → List String → List Char → Prop where
  | nil {opened : List Char} : Laid opened [] opened
  | cons {opened opened' opened'' : List Char} {l : String} {ls : List String}
      (reads : Leads l opened opened') (indent : Indented (openBraces opened) l.toList)
      (rest : Laid opened' ls opened'') : Laid opened (l :: ls) opened''

namespace Laid

theorem append {a b c : List Char} {ls ms : List String} (h : Laid a ls b) (hm : Laid b ms c) :
    Laid a (ls ++ ms) c := by
  induction h with
  | nil => exact hm
  | cons reads indent _ ih => exact cons reads indent (ih hm)

theorem single {opened opened' : List Char} {l : String} (reads : Leads l opened opened')
    (indent : Indented (openBraces opened) l.toList) : Laid opened [l] opened' :=
  cons reads indent nil

theorem newline_not_mem {a b : List Char} {ls : List String} (h : Laid a ls b) :
    ∀ l ∈ ls, '\n' ∉ l.toList := by
  induction h with
  | nil => simp
  | cons reads _ _ ih => exact List.forall_mem_cons.2 ⟨reads.oneLine, ih⟩

theorem read_line {a b : List Char} {l : String} (h : Leads l a b) :
    Reader.read ⟨a, .code⟩ l.toList = some ⟨b, .code⟩ := by
  simpa using h.reads []

theorem read_unlines {a b : List Char} {ls : List String} (h : Laid a ls b) :
    Reader.read ⟨a, .code⟩ (unlines ls).toList = some ⟨b, .code⟩ := by
  induction h with
  | nil => rfl
  | cons reads _ _ ih =>
    rw [toList_unlines_cons, Reader.read_append_of_eq (read_line reads)]
    exact ih

theorem lines {a b : List Char} {ls : List String} (h : Laid a ls b) {before line : List Char}
    (hline : IsLineAfter (unlines ls).toList before line) :
    ∃ opened opened', Reader.read ⟨a, .code⟩ before = some ⟨opened, .code⟩ ∧
      Reader.read ⟨opened, .code⟩ line = some ⟨opened', .code⟩ ∧
      Indented (openBraces opened) line := by
  induction h generalizing before with
  | nil =>
    obtain ⟨rest, hfound⟩ := hline.found
    simp at hfound
  | @cons opened opened' _ l ls reads indent _ ih =>
    rw [toList_unlines_cons] at hline
    obtain ⟨rfl, rfl⟩ | ⟨before', rfl, hline'⟩ := hline.of_line reads.oneLine
    · exact ⟨opened, opened', rfl, read_line reads, indent⟩
    · obtain ⟨o, o', hbefore, hread, hindent⟩ := ih hline'
      refine ⟨o, o', ?_, hread, hindent⟩
      rw [Reader.read_append_of_eq (read_line reads)]
      exact hbefore

/-- **Lines laid out from no open bracket to none make up a text that is well laid out.** -/
theorem wellLaidOut {ls : List String} (h : Laid [] ls []) : WellLaidOut (unlines ls).toList where
  closed := h.read_unlines
  lines _ _ hline := h.lines hline

end Laid

/-! ### From trees to lines -/

theorem Leads.outer {text : String} {a b : List Char} (h : Leads text a b) (outer : List Char) :
    Leads text (a ++ outer) (b ++ outer) where
  oneLine := h.oneLine
  reads more := by simpa using h.reads (outer ++ more)

namespace Code

theorem laid_linesAll {depth : Nat} {opened : List Char} {cs : List Code}
    (h : ∀ c ∈ cs, Laid opened (c.lines depth) opened) :
    Laid opened (linesAll depth cs) opened := by
  induction cs with
  | nil =>
    rw [linesAll_nil]
    exact .nil
  | cons c cs ih =>
    rw [linesAll_cons]
    rw [List.forall_mem_cons] at h
    exact h.1.append (ih h.2)

theorem WellNested.laid {c : Code} (h : c.WellNested) {depth : Nat} {opened : List Char}
    (hdepth : openBraces opened = depth) : Laid opened (c.lines depth) opened := by
  induction h generalizing depth opened with
  | line reads starts =>
    rw [lines]
    refine .single ((reads.indented depth).outer opened) ?_
    rw [hdepth]
    exact indented_of_startsPlainly starts depth
  | blank =>
    rw [lines]
    exact .single (.fixed (by decide) fun _ => rfl) fun h => absurd rfl h
  | @block header close body added headerReads headerStarts oneBrace closeReads closeStarts _ ih =>
    -- inside the block one more brace is open, and the body stands one level deeper
    have hinside : openBraces (added ++ opened) = depth + 1 := by
      simp only [openBraces, List.count_append] at oneBrace hdepth ⊢
      omega
    have hheader : Laid opened [indented depth header] (added ++ opened) := by
      refine .single ((headerReads.indented depth).outer opened) ?_
      rw [hdepth]
      exact indented_of_startsPlainly headerStarts depth
    have hclose : Laid (added ++ opened) [indented depth close] opened := by
      refine .single ((closeReads.indented depth).outer opened) ?_
      rw [hinside]
      exact indented_of_closes closeStarts depth
    have hbody : Laid (added ++ opened) (linesAll (depth + 1) body) (added ++ opened) :=
      laid_linesAll fun b hb => ih b hb hinside
    rw [lines]
    exact hheader.append (hbody.append hclose)

/-- **The lines of well nested code are laid out from no open bracket to none.** -/
theorem laid_of_wellNested {cs : List Code} (h : ∀ c ∈ cs, c.WellNested) :
    Laid [] (linesAll 0 cs) [] :=
  laid_linesAll fun c hc => (h c hc).laid rfl

end Code

end ArgProcessor
