/-
  ArgProcessor/Proofs/Code/Builder.lean
  =====================================
  **Writing code step by step only adds to the text.**

  A builder that has written a piece is back at its depth, and what it has added is the text of the
  piece at that depth (`Builder.addAll_eq`).  Each step on the way, at whatever level, adds to the
  text of the step before it, so the texts of a build only grow (`Builder.Grows`).  A piece without
  empty texts has the same text at every depth, up to the spaces in front of its lines
  (`codeText_add`).
-/
import ArgProcessor.Code.Builder
import ArgProcessor.Proofs.Code.Indentation
import ArgProcessor.Proofs.Code.SourceLines

namespace ArgProcessor

/-! ### Texts moved in -/

/-- The lines of a text, each of which ends with a line feed. -/
def textLines (text : String) : List String :=
  (text.toList.splitOn '\n').dropLast.map String.ofList

/-- Moves each line of a text in by some levels; an empty line stays empty. -/
def moveTextIn (levels : Nat) (text : String) : String :=
  unlines ((textLines text).map (moveIn levels))

theorem textLines_unlines {ls : List String} (h : ∀ l ∈ ls, '\n' ∉ l.toList) :
    textLines (unlines ls) = ls := by
  rw [textLines, splitOn_unlines h, List.dropLast_concat, List.map_map]
  simp [Function.comp_def]

/-! ### The texts in a piece of code -/

namespace Code

mutual

/-- The texts that a piece is made of. -/
def texts : Code → List String
  | .line s => [s]
  | .blank => []
  | .block header close body => header :: (textsAll body ++ [close])

def textsAll : List Code → List String
  | [] => []
  | c :: rest => texts c ++ textsAll rest

end

/-- A line with something on it. -/
def IsProperLine (text : String) : Prop := text ≠ "" ∧ '\n' ∉ text.toList

instance : DecidablePred IsProperLine := fun text =>
  inferInstanceAs (Decidable (text ≠ "" ∧ '\n' ∉ text.toList))

/-- A line is one of some texts, at some depth from `depth` on, or has nothing on it. -/
def IsLineOf (depth : Nat) (texts : List String) (line : String) : Prop :=
  line = "" ∨ ∃ text ∈ texts, ∃ deeper, depth ≤ deeper ∧ line = indented deeper text

theorem IsLineOf.mono {depth depth' : Nat} {texts texts' : List String} {line : String}
    (h : IsLineOf depth texts line) (hdepth : depth' ≤ depth) (hsub : texts ⊆ texts') :
    IsLineOf depth' texts' line := by
  rcases h with rfl | ⟨text, htext, deeper, hdeeper, rfl⟩
  · exact Or.inl rfl
  · exact Or.inr ⟨text, hsub htext, deeper, Nat.le_trans hdepth hdeeper, rfl⟩

mutual

theorem isLineOf_of_mem_lines {depth : Nat} {c : Code} {l : String} (hl : l ∈ c.lines depth) :
    IsLineOf depth c.texts l := by
  match c with
  | .line s =>
    rw [lines_line, List.mem_singleton] at hl
    subst hl
    rw [texts]
    exact Or.inr ⟨s, List.mem_singleton_self s, depth, Nat.le_refl _, rfl⟩
  | .blank =>
    rw [lines_blank, List.mem_singleton] at hl
    exact Or.inl hl
  | .block header close body =>
    rw [lines_block, List.mem_cons, List.mem_append, List.mem_singleton] at hl
    rw [texts]
    rcases hl with rfl | hl | rfl
    · exact Or.inr ⟨header, by simp, depth, Nat.le_refl _, rfl⟩
    · apply (isLineOf_of_mem_linesAll hl).mono (Nat.le_succ depth)
      intro text htext
      exact List.mem_cons_of_mem _ (List.mem_append_left _ htext)
    · exact Or.inr ⟨close, by simp, depth, Nat.le_refl _, rfl⟩

theorem isLineOf_of_mem_linesAll {depth : Nat} {cs : List Code} {l : String}
    (hl : l ∈ linesAll depth cs) : IsLineOf depth (textsAll cs) l := by
  match cs with
  | [] =>
    rw [linesAll_nil] at hl
    contradiction
  | c :: rest =>
    rw [linesAll_cons, List.mem_append] at hl
    rw [textsAll]
    rcases hl with hl | hl
    · exact (isLineOf_of_mem_lines hl).mono (Nat.le_refl _) (List.subset_append_left _ _)
    · exact (isLineOf_of_mem_linesAll hl).mono (Nat.le_refl _) (List.subset_append_right _ _)

end

mutual

theorem filled_of_texts {c : Code} (h : ∀ text ∈ c.texts, text ≠ "") : c.Filled := by
  match c with
  | .line s =>
    rw [texts, List.forall_mem_singleton] at h
    exact .line h
  | .blank => exact .blank
  | .block header close body =>
    rw [texts, List.forall_mem_cons, List.forall_mem_append, List.forall_mem_singleton] at h
    obtain ⟨hheader, hbody, hclose⟩ := h
    exact .block hheader hclose (filled_of_textsAll hbody)

theorem filled_of_textsAll {cs : List Code} (h : ∀ text ∈ textsAll cs, text ≠ "") :
    ∀ c ∈ cs, c.Filled := by
  match cs with
  | [] => exact nofun
  | c :: rest =>
    rw [textsAll, List.forall_mem_append] at h
    rw [List.forall_mem_cons]
    exact ⟨filled_of_texts h.1, filled_of_textsAll h.2⟩

end

section ProperLines

variable {cs : List Code} (h : ∀ text ∈ textsAll cs, IsProperLine text)
include h

theorem newline_not_mem_linesAll (depth : Nat) : ∀ l ∈ linesAll depth cs, '\n' ∉ l.toList := by
  intro l hl
  rcases isLineOf_of_mem_linesAll hl with rfl | ⟨text, htext, deeper, -, rfl⟩
  · exact List.not_mem_nil
  · rw [toList_indented, List.mem_append, List.mem_replicate]
    rintro (⟨-, hspace⟩ | hfeed)
    · exact absurd hspace (by decide)
    · exact (h text htext).2 hfeed

theorem textLines_codeText (depth : Nat) : textLines (codeText depth cs) = linesAll depth cs :=
  textLines_unlines (newline_not_mem_linesAll h depth)

/-- **The text of code at a greater depth is that at a smaller one, moved in.** -/
theorem codeText_add (depth levels : Nat) :
    codeText (depth + levels) cs = moveTextIn levels (codeText depth cs) := by
  have hfilled : ∀ c ∈ cs, c.Filled := filled_of_textsAll fun text htext => (h text htext).1
  rw [moveTextIn, textLines_codeText h, ← linesAll_add hfilled, codeText]

end ProperLines

end Code

namespace Builder

/-! ### What is added -/

theorem line_eq (b : Builder) (s : String) :
    b.line s = ⟨b.depth, b.text ++ unlines [indented b.depth s]⟩ := by
  rw [line, unlines_cons, unlines_nil, String.append_empty, String.append_assoc]

theorem blank_eq (b : Builder) : b.blank = ⟨b.depth, b.text ++ unlines [""]⟩ := by
  rw [blank, unlines_cons, unlines_nil, String.append_empty, String.empty_append]

theorem openBlock_eq (b : Builder) (header : String) :
    b.openBlock header = ⟨b.depth + 1, b.text ++ unlines [indented b.depth header]⟩ := by
  rw [openBlock, line_eq]

/-- The close of a block is back at the depth of its header. -/
theorem closeBlock_eq (depth : Nat) (text close : String) :
    closeBlock ⟨depth + 1, text⟩ close = ⟨depth, text ++ unlines [indented depth close]⟩ := by
  rw [closeBlock, line_eq]
  rfl

mutual

/-- A piece adds its lines. -/
theorem add_eq (b : Builder) (c : Code) :
    b.add c = ⟨b.depth, b.text ++ unlines (c.lines b.depth)⟩ := by
  match c with
  | .line s => rw [add, line_eq, Code.lines_line]
  | .blank => rw [add, blank_eq, Code.lines_blank]
  | .block header close body =>
    have hlines : unlines ((Code.block header close body).lines b.depth) =
        unlines [indented b.depth header] ++
          (codeText (b.depth + 1) body ++ unlines [indented b.depth close]) := by
      rw [Code.lines_block, unlines_cons, unlines_append, unlines_cons (indented b.depth header) [],
        unlines_nil, String.append_empty, codeText]
    rw [add, openBlock_eq, addAll_eq, closeBlock_eq, hlines, String.append_assoc,
      String.append_assoc]

/-- **Pieces add their text at the depth of the builder**, which is kept. -/
theorem addAll_eq (b : Builder) (cs : List Code) :
    b.addAll cs = ⟨b.depth, b.text ++ codeText b.depth cs⟩ := by
  match cs with
  | [] => simp [addAll, codeText]
  | c :: rest =>
    rw [addAll, add_eq, addAll_eq, codeText, codeText, Code.linesAll_cons, unlines_append,
      String.append_assoc]

end

/-! ### Step by step -/

/-- Builders one after the other, up to a last one, each with the text of the one before it and
    maybe more. -/
inductive Grows : Builder → List Builder → Builder → Prop where
  | nil {b : Builder} : Grows b [] b
  | cons {b next last : Builder} {later : List Builder}
      (more : b.text.toList <+: next.text.toList) (rest : Grows next later last) :
      Grows b (next :: later) last

namespace Grows

variable {a b c : Builder} {ls ms : List Builder}

theorem append (h : Grows a ls b) (hm : Grows b ms c) : Grows a (ls ++ ms) c := by
  induction h with
  | nil => exact hm
  | cons more _ ih => exact cons more (ih hm)

theorem single (more : a.text.toList <+: b.text.toList) : Grows a [b] b := cons more nil

theorem prefix_of_mem (h : Grows a ls b) : ∀ x ∈ ls, a.text.toList <+: x.text.toList := by
  induction h with
  | nil => exact nofun
  | cons more _ ih =>
    rw [List.forall_mem_cons]
    exact ⟨more, fun x hx => more.trans (ih x hx)⟩

theorem pairwise (h : Grows a ls b) :
    (a :: ls).Pairwise fun x y => x.text.toList <+: y.text.toList := by
  induction h with
  | nil => exact List.pairwise_singleton _ _
  | cons more rest ih => exact List.pairwise_cons.2 ⟨(cons more rest).prefix_of_mem, ih⟩

theorem getLast?_eq (h : Grows a ls b) : (a :: ls).getLast? = some b := by
  induction h with
  | nil => rfl
  | cons _ _ ih => rw [List.getLast?_cons_cons, ih]

end Grows

theorem prefix_line (b : Builder) (s : String) : b.text.toList <+: (b.line s).text.toList := by
  rw [line_eq, String.toList_append]
  exact List.prefix_append _ _

theorem prefix_blank (b : Builder) : b.text.toList <+: b.blank.text.toList := by
  rw [blank_eq, String.toList_append]
  exact List.prefix_append _ _

theorem prefix_openBlock (b : Builder) (header : String) :
    b.text.toList <+: (b.openBlock header).text.toList :=
  b.prefix_line header

theorem prefix_closeBlock (b : Builder) (close : String) :
    b.text.toList <+: (b.closeBlock close).text.toList :=
  prefix_line { b with depth := b.depth - 1 } close

mutual

theorem grows_stages (b : Builder) (c : Code) : Grows b (b.stages c) (b.add c) := by
  match c with
  | .line s =>
    rw [stages, add]
    exact .single (b.prefix_line s)
  | .blank =>
    rw [stages, add]
    exact .single b.prefix_blank
  | .block header close body =>
    rw [stages, add]
    apply Grows.cons (b.prefix_openBlock header)
    apply (grows_stagesAll (b.openBlock header) body).append
    exact .single (prefix_closeBlock _ close)

/-- The texts of a build only grow, and the last of them is that of the whole. -/
theorem grows_stagesAll (b : Builder) (cs : List Code) :
    Grows b (b.stagesAll cs) (b.addAll cs) := by
  match cs with
  | [] =>
    rw [stagesAll, addAll]
    exact .nil
  | c :: rest =>
    rw [stagesAll, addAll]
    exact (grows_stages b c).append (grows_stagesAll (b.add c) rest)

end

/-! ### A whole build -/

/-- What writing pieces does to a builder. -/
structure Appends (b : Builder) (cs : List Code) : Prop where
  depth_eq : (b.addAll cs).depth = b.depth
  keeps : b.text.toList <+: (b.addAll cs).text.toList
  stages_grow : (b :: b.stagesAll cs).Pairwise fun x y => x.text.toList <+: y.text.toList
  stages_end : (b :: b.stagesAll cs).getLast? = some (b.addAll cs)
  added : ∀ text, addAll ⟨b.depth, text⟩ cs = ⟨b.depth, text ++ codeText b.depth cs⟩
  movedIn : (∀ text ∈ Code.textsAll cs, Code.IsProperLine text) →
    (b.addAll cs).text = b.text ++ moveTextIn b.depth (addAll {} cs).text
  nested : (∀ text ∈ Code.textsAll cs, Code.IsProperLine text) → ∀ levels,
    codeText (b.depth + levels) cs = moveTextIn levels (codeText b.depth cs)
  blankLines : (∀ text ∈ Code.textsAll cs, Code.IsProperLine text) →
    ∀ l ∈ textLines (codeText b.depth cs), Code.IsLineOf b.depth (Code.textsAll cs) l

/-- **Writing code keeps the depth and only adds to the text**, step by step; what is added depends
    on the code and the depth alone, and the depth shows as spaces in front of its lines. -/
theorem addAll_appends (b : Builder) (cs : List Code) : Appends b cs := by
  have hgrows := grows_stagesAll b cs
  constructor
  case depth_eq => rw [addAll_eq]
  case keeps =>
    rw [addAll_eq, String.toList_append]
    exact List.prefix_append _ _
  case stages_grow => exact hgrows.pairwise
  case stages_end => exact hgrows.getLast?_eq
  case added => exact fun text => addAll_eq ⟨b.depth, text⟩ cs
  case movedIn =>
    intro h
    have hmoved := Code.codeText_add h 0 b.depth
    rw [Nat.zero_add] at hmoved
    rw [addAll_eq, addAll_eq, hmoved, String.empty_append]
  case nested => exact fun h levels => Code.codeText_add h b.depth levels
  case blankLines =>
    intro h l hl
    rw [Code.textLines_codeText h] at hl
    exact Code.isLineOf_of_mem_linesAll hl

/-- A block in a block, after a blank line, written one level deep. -/
theorem addAll_appends_nested :
    ∃ cs fresh,
      cs = [Code.block "a \x7b" "\x7d" [.blank, .block "é \x7b" "\x7d" [.line "b;"], .line " c"]] ∧
        fresh = "a \x7b\n\n    é \x7b\n        b;\n    \x7d\n     c\n\x7d\n" ∧
        (∀ text ∈ Code.textsAll cs, Code.IsProperLine text) ∧
        (addAll {} cs).text = fresh ∧
        (addAll ⟨1, "x"⟩ cs).text = "x" ++ moveTextIn 1 fresh ∧
        moveTextIn 1 fresh =
          "    a \x7b\n\n        é \x7b\n            b;\n        \x7d\n         c\n    \x7d\n" ∧
        Appends ⟨1, "x"⟩ cs := by
  have hwritten := addAll_appends ⟨1, "x"⟩
    [Code.block "a \x7b" "\x7d" [.blank, .block "é \x7b" "\x7d" [.line "b;"], .line " c"]]
  exact ⟨_, _, rfl, rfl, by decide, rfl, hwritten.movedIn (by decide), rfl, hwritten⟩

end Builder

end ArgProcessor
