/-
  ArgProcessor/Proofs/Code/SourceLines.lean
  =========================================
  **Reading code line by line.**

  A text is read as its lines, each taken apart into the blanks in front of it and the rest
  (`sourceLines`).  A line may begin a block: the deeper lines that follow it, up to the first one
  that is not deeper (`blocks`).  Only the text is looked at, so what is found in it does not
  depend on how it was written.

  On the text of a tree of code this gives the tree back as far as needed: its lines with their
  depths (`sourceLines_codeText`), and blocks that can be looked for piece by piece
  (`blocks_sourceLinesAll`), since a block of one piece ends before the next piece begins.
-/
import ArgProcessor.Proofs.Code.Layout
import Mathlib.Data.List.Basic

namespace ArgProcessor

/-! ### Lines and blocks of a text -/

/-- A line: the number of blanks in front of its text, and the text. -/
structure SourceLine where
  indent : Nat
  text : String
deriving DecidableEq, Repr

def SourceLine.ofChars (line : List Char) : SourceLine :=
  ⟨(line.takeWhile (· == ' ')).length, String.ofList (line.dropWhile (· == ' '))⟩

/-- The lines of a text, each of which ends with a line feed. -/
def sourceLines (text : String) : List SourceLine :=
  (text.toList.splitOn '\n').dropLast.map .ofChars

def words (cs : List Char) : List (List Char) := (cs.splitOn ' ').filter (!·.isEmpty)

theorem words_append_cons {front word : List Char} (hblank : ' ' ∉ word) (hne : word ≠ []) :
    words (front ++ ' ' :: word) = words front ++ [word] := by
  rw [words, List.splitOn_append_cons_self, List.splitOn_eq_singleton hblank, List.filter_append]
  simp [words, hne]

/-- A line with the deeper lines that follow it. -/
structure SourceBlock where
  header : SourceLine
  body : List SourceLine
deriving DecidableEq, Repr

/-- The blocks whose header satisfies `p`, in the order of their headers. -/
def blocks (p : String → Bool) : List SourceLine → List SourceBlock
  | [] => []
  | l :: rest =>
    if p l.text then ⟨l, rest.takeWhile fun k => l.indent < k.indent⟩ :: blocks p rest
    else blocks p rest

/-! ### Lines of code -/

namespace Code

mutual

/-- The lines of a piece of code that stands at a depth. -/
def sourceLines (depth : Nat) : Code → List SourceLine
  | .line s => [⟨4 * depth, s⟩]
  | .blank => [⟨0, ""⟩]
  | .block header close body =>
    ⟨4 * depth, header⟩ :: (sourceLinesAll (depth + 1) body ++ [⟨4 * depth, close⟩])

def sourceLinesAll (depth : Nat) : List Code → List SourceLine
  | [] => []
  | c :: rest => sourceLines depth c ++ sourceLinesAll depth rest

end

@[simp] theorem sourceLines_line (depth : Nat) (text : String) :
    sourceLines depth (.line text) = [⟨4 * depth, text⟩] := by rw [sourceLines]

@[simp] theorem sourceLines_blank (depth : Nat) : sourceLines depth .blank = [⟨0, ""⟩] := by
  rw [sourceLines]

@[simp] theorem sourceLines_block (depth : Nat) (header close : String) (body : List Code) :
    sourceLines depth (.block header close body) =
      ⟨4 * depth, header⟩ :: (sourceLinesAll (depth + 1) body ++ [⟨4 * depth, close⟩]) := by
  rw [sourceLines]

@[simp] theorem sourceLinesAll_nil (depth : Nat) : sourceLinesAll depth [] = [] := by
  rw [sourceLinesAll]

@[simp] theorem sourceLinesAll_cons (depth : Nat) (c : Code) (rest : List Code) :
    sourceLinesAll depth (c :: rest) = sourceLines depth c ++ sourceLinesAll depth rest := by
  rw [sourceLinesAll]

theorem sourceLinesAll_eq_flatMap (depth : Nat) (cs : List Code) :
    sourceLinesAll depth cs = cs.flatMap (sourceLines depth) := by
  induction cs with
  | nil => simp
  | cons c rest ih => simp [ih]

end Code

theorem sourceLine_indented {text : String} {c : Char} (h : text.toList.head? = some c)
    (hc : c ≠ ' ') (depth : Nat) :
    SourceLine.ofChars (indented depth text).toList = ⟨4 * depth, text⟩ := by
  simp [SourceLine.ofChars, toList_indented, takeWhile_spaces h hc, dropWhile_spaces h hc]

theorem sourceLine_of_startsPlainly {text : String} (h : StartsPlainly text) (depth : Nat) :
    SourceLine.ofChars (indented depth text).toList = ⟨4 * depth, text⟩ := by
  obtain ⟨c, hhead, hblank, -⟩ := h
  exact sourceLine_indented hhead hblank depth

theorem Code.WellNested.map_lines {c : Code} (h : c.WellNested) (depth : Nat) :
    (c.lines depth).map (fun l => SourceLine.ofChars l.toList) = c.sourceLines depth := by
  induction h generalizing depth with
  | line _ starts => simp [lines, sourceLine_of_startsPlainly starts]
  | blank => simp [lines, SourceLine.ofChars]
  | @block header close body _ _ headerStarts _ _ closeStarts _ ih =>
    have hbody : (linesAll (depth + 1) body).map (fun l => SourceLine.ofChars l.toList) =
        sourceLinesAll (depth + 1) body := by
      rw [linesAll_eq_flatMap, sourceLinesAll_eq_flatMap, List.map_flatMap]
      exact List.flatMap_congr fun b hb => ih b hb (depth + 1)
    have hclose := sourceLine_indented closeStarts (by decide) depth
    simp [lines, hbody, hclose, sourceLine_of_startsPlainly headerStarts]

theorem splitOn_closed {a : Char} {pieces : List (List Char)} (h : ∀ p ∈ pieces, a ∉ p) :
    (closed a pieces).splitOn a = pieces ++ [[]] := by
  induction pieces with
  | nil => rfl
  | cons p pieces ih =>
    rw [List.forall_mem_cons] at h
    rw [closed_cons, List.splitOn_append_cons_self, List.splitOn_eq_singleton h.1, ih h.2]
    rfl

theorem splitOn_unlines {ls : List String} (h : ∀ l ∈ ls, '\n' ∉ l.toList) :
    (unlines ls).toList.splitOn '\n' = ls.map String.toList ++ [[]] := by
  rw [toList_unlines_eq_closed]
  exact splitOn_closed (List.forall_mem_map.2 h)

theorem sourceLines_unlines {ls : List String} (h : ∀ l ∈ ls, '\n' ∉ l.toList) :
    sourceLines (unlines ls) = ls.map fun l => SourceLine.ofChars l.toList := by
  rw [sourceLines, splitOn_unlines h, List.dropLast_concat, List.map_map]
  rfl

theorem Code.map_linesAll {cs : List Code} (h : ∀ c ∈ cs, c.WellNested) (depth : Nat) :
    (linesAll depth cs).map (fun l => SourceLine.ofChars l.toList) = sourceLinesAll depth cs := by
  rw [linesAll_eq_flatMap, sourceLinesAll_eq_flatMap, List.map_flatMap]
  exact List.flatMap_congr fun c hc => (h c hc).map_lines depth

/-- **The text of well nested code is read as the lines of the code.** -/
theorem sourceLines_codeText {cs : List Code} (h : ∀ c ∈ cs, c.WellNested) :
    sourceLines (codeText 0 cs) = Code.sourceLinesAll 0 cs := by
  rw [codeText, sourceLines_unlines (Code.laid_of_wellNested h).newline_not_mem,
    Code.map_linesAll h]

/-! ### Blocks of code -/

theorem blocks_eq_nil {p : String → Bool} {ls : List SourceLine}
    (h : ∀ l ∈ ls, p l.text = false) : blocks p ls = [] := by
  induction ls with
  | nil => rfl
  | cons l rest ih =>
    rw [List.forall_mem_cons] at h
    rw [blocks, if_neg (by simp [h.1]), ih h.2]

/-- No block goes over to lines that begin with one that is not deeper than its header. -/
theorem blocks_append {p : String → Bool} {n : Nat} {ls ms : List SourceLine}
    (hls : ∀ l ∈ ls, p l.text = true → n ≤ l.indent)
    (hms : ∀ m ∈ ms.head?, m.indent ≤ n) :
    blocks p (ls ++ ms) = blocks p ls ++ blocks p ms := by
  induction ls with
  | nil => rfl
  | cons l rest ih =>
    rw [List.forall_mem_cons] at hls
    rw [List.cons_append, blocks, blocks, ih hls.2]
    split
    · next hp =>
      have hstop : ms.takeWhile (fun k => decide (l.indent < k.indent)) = [] := by
        cases ms with
        | nil => rfl
        | cons m ms =>
          have hn := hls.1 hp
          have hm := hms m rfl
          rw [List.takeWhile_cons_of_neg]
          simp only [decide_eq_true_eq]
          omega
      rw [List.takeWhile_append, hstop]
      split
      · next hall =>
        -- the block goes on to the last line before `ms`
        rw [List.append_nil, (List.takeWhile_prefix _).eq_of_length hall]
        rfl
      · rfl
    · rfl

namespace Code

theorem WellNested.le_indent {c : Code} (h : c.WellNested) {depth : Nat} {l : SourceLine}
    (hl : l ∈ c.sourceLines depth) : l.text = "" ∨ 4 * depth ≤ l.indent := by
  induction h generalizing depth with
  | line =>
    rw [sourceLines_line, List.mem_singleton] at hl
    subst hl
    exact Or.inr (Nat.le_refl _)
  | blank =>
    rw [sourceLines_blank, List.mem_singleton] at hl
    subst hl
    exact Or.inl rfl
  | block _ _ _ _ _ _ ih =>
    rw [sourceLines_block, List.mem_cons, List.mem_append, List.mem_singleton,
      sourceLinesAll_eq_flatMap, List.mem_flatMap] at hl
    rcases hl with rfl | ⟨b, hb, hl⟩ | rfl
    · exact Or.inr (Nat.le_refl _)
    · rcases ih b hb hl with hempty | hle
      · exact Or.inl hempty
      · right
        omega
    · exact Or.inr (Nat.le_refl _)

theorem WellNested.body {header close : String} {body : List Code}
    (h : (Code.block header close body).WellNested) : ∀ c ∈ body, c.WellNested := by
  cases h with
  | block _ _ _ _ _ bodyNested => exact bodyNested

theorem indent_head_le {depth : Nat} {cs : List Code} :
    ∀ l ∈ (sourceLinesAll depth cs).head?, l.indent ≤ 4 * depth := by
  intro l hl
  cases cs with
  | nil => simp at hl
  | cons c cs =>
    rw [sourceLinesAll_cons] at hl
    cases c with
    | line => simp at hl; simp [← hl]
    | blank => simp at hl; simp [← hl]
    | block => simp at hl; simp [← hl]

section Blocks

variable {p : String → Bool} (hempty : p "" = false)
include hempty

theorem WellNested.le_indent_of_mem {c : Code} (h : c.WellNested) {depth : Nat} :
    ∀ l ∈ c.sourceLines depth, p l.text = true → 4 * depth ≤ l.indent := by
  intro l hl hp
  rcases h.le_indent hl with htext | hle
  · rw [htext, hempty] at hp
    contradiction
  · exact hle

/-- **The blocks of a sequence are those of its members**, one after the other. -/
theorem blocks_sourceLinesAll {depth : Nat} {cs : List Code} (h : ∀ c ∈ cs, c.WellNested) :
    blocks p (sourceLinesAll depth cs) = cs.flatMap fun c => blocks p (c.sourceLines depth) := by
  induction cs with
  | nil => simp [blocks]
  | cons c cs ih =>
    rw [List.forall_mem_cons] at h
    rw [sourceLinesAll_cons, blocks_append (h.1.le_indent_of_mem hempty) indent_head_le, ih h.2,
      List.flatMap_cons]

theorem blocks_append_close {depth : Nat} {close : String} {cs : List Code}
    (h : ∀ c ∈ cs, c.WellNested) (hclose : p close = false) :
    blocks p (sourceLinesAll (depth + 1) cs ++ [⟨4 * depth, close⟩]) =
      cs.flatMap fun c => blocks p (c.sourceLines (depth + 1)) := by
  have hclosed : blocks p [⟨4 * depth, close⟩] = [] := blocks_eq_nil (by simp [hclose])
  rw [blocks_append (n := 4 * (depth + 1)), hclosed, List.append_nil,
    blocks_sourceLinesAll hempty h]
  · intro l hl hp
    rw [sourceLinesAll_eq_flatMap, List.mem_flatMap] at hl
    obtain ⟨c, hc, hl⟩ := hl
    exact (h c hc).le_indent_of_mem hempty l hl hp
  · intro m hm
    rw [List.head?_cons, Option.mem_some_iff] at hm
    subst hm
    exact Nat.mul_le_mul_left 4 (Nat.le_succ depth)

/-- A block whose header does not satisfy `p` has the blocks of its body. -/
theorem blocks_of_header_neg {depth : Nat} {header close : String} {body : List Code}
    (h : ∀ c ∈ body, c.WellNested) (hheader : p header = false) (hclose : p close = false) :
    blocks p (sourceLines depth (.block header close body)) =
      body.flatMap fun c => blocks p (c.sourceLines (depth + 1)) := by
  rw [sourceLines_block, blocks, if_neg (by simp [hheader]), blocks_append_close hempty h hclose]

/-- A block whose header satisfies `p` is found whole, as long as its body has no blank line. -/
theorem blocks_of_header_pos {depth : Nat} {header close : String} {body : List Code}
    (h : ∀ c ∈ body, c.WellNested) (hheader : p header = true) (hclose : p close = false)
    (hbody : ∀ l ∈ sourceLinesAll (depth + 1) body, l.text ≠ "") :
    blocks p (sourceLines depth (.block header close body)) =
      ⟨⟨4 * depth, header⟩, sourceLinesAll (depth + 1) body⟩ ::
        body.flatMap fun c => blocks p (c.sourceLines (depth + 1)) := by
  have hdeeper : ∀ l ∈ sourceLinesAll (depth + 1) body,
      decide (4 * depth < l.indent) = true := by
    intro l hl
    have htext := hbody l hl
    rw [sourceLinesAll_eq_flatMap, List.mem_flatMap] at hl
    obtain ⟨c, hc, hl⟩ := hl
    have hle := ((h c hc).le_indent hl).resolve_left htext
    rw [decide_eq_true_eq]
    omega
  rw [sourceLines_block, blocks, if_pos hheader, blocks_append_close hempty h hclose,
    List.takeWhile_append_of_pos hdeeper]
  simp

end Blocks

end Code

end ArgProcessor
