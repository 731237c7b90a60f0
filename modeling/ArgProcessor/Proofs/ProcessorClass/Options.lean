/-
  ArgProcessor/Proofs/ProcessorClass/Options.lean
  ===============================================
  **Where the separator and the language reach the text of a class.**

  The separator reaches one place, the literal at which the dispatcher splits a word: all that
  stands before and after it is the same for every separator (`classCode_holdsOnce`).  Of the
  language only matters whether it is known, and then the text starts with the imports and is
  otherwise the same (`classText_language`).
-/
import ArgProcessor.Proofs.ProcessorClass.Contents

namespace ArgProcessor

open Code

/-! ### Texts that hold a piece once -/

/-- A text that depends on a parameter holds `piece` in one place; what is around it is the same
    for every value of the parameter. -/
def HoldsOnce (text piece : String → String) : Prop :=
  ∃ front back, ∀ s, text s = front ++ piece s ++ back

section HoldsOnce

variable {piece : String → String} {depth : Nat}

theorem HoldsOnce.around {text : String → String} (h : HoldsOnce text piece)
    (before after : String) : HoldsOnce (fun s => before ++ text s ++ after) piece := by
  obtain ⟨front, back, htext⟩ := h
  exact ⟨before ++ front, back ++ after, fun s => by simp only [htext, String.append_assoc]⟩

theorem HoldsOnce.line (left right : String) :
    HoldsOnce (fun s => codeText depth [.line (left ++ piece s ++ right)]) piece := by
  refine ⟨indentation depth ++ left, right ++ "\n", fun s => ?_⟩
  simp only [codeText, linesAll_cons, lines_line, linesAll_nil, List.append_nil, unlines_cons,
    unlines_nil, indented, String.append_assoc, String.append_empty]

theorem codeText_block (depth : Nat) (header close : String) (body : List Code) :
    codeText depth [.block header close body] =
      indented depth header ++ "\n" ++ codeText (depth + 1) body ++
        (indented depth close ++ "\n") := by
  simp only [codeText, linesAll_cons, lines_block, linesAll_nil, List.append_nil, unlines_cons,
    unlines_append, unlines_nil, String.append_assoc, String.append_empty]

theorem HoldsOnce.block {body : String → List Code}
    (h : HoldsOnce (fun s => codeText (depth + 1) (body s)) piece) (header close : String) :
    HoldsOnce (fun s => codeText depth [.block header close (body s)]) piece := by
  simp only [codeText_block]
  exact h.around _ _

theorem HoldsOnce.after {code : String → List Code}
    (h : HoldsOnce (fun s => codeText depth (code s)) piece) (before : List Code) :
    HoldsOnce (fun s => codeText depth (before ++ code s)) piece := by
  have htext := h.around (codeText depth before) ""
  simpa only [codeText_append, String.append_empty] using htext

theorem HoldsOnce.before {code : String → Code}
    (h : HoldsOnce (fun s => codeText depth [code s]) piece) (after : List Code) :
    HoldsOnce (fun s => codeText depth (code s :: after)) piece := by
  have hcons : ∀ s, codeText depth (code s :: after) =
      codeText depth [code s] ++ codeText depth after :=
    fun s => codeText_append depth [code s] after
  simpa only [hcons, String.empty_append] using h.around "" (codeText depth after)

end HoldsOnce

/-! ### The separator -/

theorem dispatcher_holdsOnce (o : ClassOptions) :
    HoldsOnce (fun separator => codeText 1 [{ o with separator }.dispatcher]) stringLiteral :=
  .block (.block (.before (.line _ _) _) _ _) _ _

theorem classBody_holdsOnce (o : ClassOptions) (l : List Argument) :
    HoldsOnce (fun separator => codeText 1 ({ o with separator }.classBody (l.map Argument.member)))
      stringLiteral := by
  -- the parts around the dispatcher are those of `o` itself
  have hbody : ∀ separator, { o with separator }.classBody (l.map Argument.member) =
      [.blank, o.entryPoint, .blank] ++
        ((l.map fun a => a.member.field) ++ [ClassOptions.handlerTable] ++
          (o.accessors (l.map Argument.member) ++ ({ o with separator }.dispatcher :: .blank ::
            (l.map fun a => a.member.validator).intersperse .blank))) :=
    fun separator => ClassOptions.classBody_eq { o with separator } l
  simp only [hbody]
  exact .after (.after (.after (.before (dispatcher_holdsOnce o) _) _) _) _

theorem classCode_holdsOnce (o : ClassOptions) (l : List Argument) :
    HoldsOnce (fun separator => codeText 0 ({ o with separator }.classCode (l.map Argument.member)))
      stringLiteral := by
  have hcode : ∀ separator, { o with separator }.classCode (l.map Argument.member) =
      o.preamble ++ [.block ("public class " ++ o.className ++ " \x7b") "\x7d"
        ({ o with separator }.classBody (l.map Argument.member))] := by
    intro separator
    simp only [ClassOptions.classCode, ClassOptions.preamble]
  simp only [hcode]
  exact .after (.block (classBody_holdsOnce o l) _ _) _

/-! ### The language -/

/-- The imports, each on a line of its own, and a blank line. -/
def importText : String := unlines (classImports ++ [""])

theorem codeText_preamble (o : ClassOptions) :
    codeText 0 o.preamble = if isKnownLanguage o.language then importText else "" := by
  unfold ClassOptions.preamble importsFor
  cases isKnownLanguage o.language <;> rfl

/-- The text of a class is that of its preamble and then of the class itself. -/
theorem classText_language (s : ArgumentList) (o : ClassOptions) (language : String) :
    s.classText { o with language } =
      (o.members s).map fun ms =>
        (if isKnownLanguage language then importText else "") ++
          codeText 0
            [.block ("public class " ++ o.className ++ " \x7b") "\x7d" (o.classBody ms)] := by
  have hpreamble := codeText_preamble { o with language }
  simp only [ArgumentList.classText, ClassOptions.classCode, codeText_append, hpreamble]
  rfl

/-- **The separator reaches the text of a class in one literal, and the language in its imports
    only.** -/
theorem classText_options (s : ArgumentList) (o : ClassOptions) :
    ((∃ text, s.classText o = .ok text) →
      ∃ front back, ∀ separator,
        s.classText { o with separator } = .ok (front ++ stringLiteral separator ++ back)) ∧
    (∀ language language', isKnownLanguage language = isKnownLanguage language' →
      s.classText { o with language } = s.classText { o with language := language' }) ∧
    (∀ known unknown, isKnownLanguage known = true → isKnownLanguage unknown = false →
      s.classText { o with language := known } =
        (s.classText { o with language := unknown }).map (importText ++ ·)) ∧
    classImports.length = 8 ∧
    importText = unlines
      ["import java.io.File;", "import java.nio.file.Path;", "import java.nio.file.Paths;",
        "import java.util.LinkedHashMap;", "import java.util.Map;", "import java.util.Objects;",
        "import java.util.function.Consumer;", "import java.util.regex.Pattern;", ""] := by
  refine ⟨?_, ?_, ?_, rfl, rfl⟩
  · rintro ⟨text, htext⟩
    obtain ⟨hclass, hnames, -⟩ := ArgumentList.classText_eq_ok_iff.1 htext
    obtain ⟨front, back, hcode⟩ := classCode_holdsOnce o s.arguments
    refine ⟨front, back, fun separator => ?_⟩
    exact ArgumentList.classText_eq_ok_iff.2 ⟨hclass, hnames, (hcode separator).symm⟩
  · intro language language' h
    rw [classText_language, classText_language, h]
  · intro known unknown hknown hunknown
    rw [classText_language, classText_language, hknown, hunknown]
    cases o.members s <;> simp [Except.map]

/-- A separator that looks like the end of its literal, and two tags of which one is known. -/
theorem classText_options_quote :
    ∃ s : ArgumentList,
      s = .ofArguments [⟨"in", "file", true, false, false, false⟩] ∧
      (∃ front back,
        s.classText { separator := "=" } = .ok (front ++ "\"=\"" ++ back) ∧
        s.classText { separator := "\"), 2);\n" } = .ok (front ++ "\"\\\"), 2);\\n\"" ++ back)) ∧
      s.classText { language := "JAVA" } = s.classText { language := " java" } ∧
      s.classText { language := "Java" } =
        (s.classText { language := "cobol" }).map (importText ++ ·) := by
  refine ⟨_, rfl, ?_, ?_, ?_⟩
  · obtain ⟨front, back, htext⟩ := (classText_options
      (.ofArguments [⟨"in", "file", true, false, false, false⟩]) {}).1
      ⟨_, ArgumentList.classText_eq_ok_iff.2 ⟨by decide, by decide, rfl⟩⟩
    exact ⟨front, back, htext "=", htext "\"), 2);\n"⟩
  · exact (classText_options _ {}).2.1 _ _ (by decide)
  · exact (classText_options _ {}).2.2.1 _ _ (by decide) (by decide)

end ArgProcessor
