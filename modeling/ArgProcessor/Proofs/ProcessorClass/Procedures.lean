/-
  ArgProcessor/Proofs/ProcessorClass/Procedures.lean
  ==================================================
  **The validation procedures of a class are those that can be had on their own.**

  The body of a validation procedure can be written alone, or two levels deep in a class.  Its
  lines are the same up to eight spaces in front of each, since none of them is empty
  (`isProcedure_validator`).  The procedures are all that comes after the dispatcher: one for each
  argument, with a blank line between two of them, and then the end of the class
  (`classText_procedures`).
-/
import ArgProcessor.Proofs.Code.Indentation
import ArgProcessor.Proofs.ProcessorClass.Contents
import ArgProcessor.Proofs.ProcessorClass.Declarations

namespace ArgProcessor

open Code

/-- Lines that make a procedure of the validation of an argument: a header with its suffix, the
    lines of the validation, each moved in by eight spaces, and a closing brace. -/
def IsProcedure (a : Argument) (ls : List String) : Prop :=
  ∃ suffix body, accessorSuffix a.name = .ok suffix ∧ a.validation = .ok (unlines body) ∧
    (∀ l ∈ body, '\n' ∉ l.toList) ∧
      ls = ("    private void validate" ++ suffix ++ "() \x7b") ::
        (body.map ("        " ++ ·) ++ ["    \x7d"])

/-! ### One procedure -/

theorem validationBody_lines_ne_empty (a : Argument) (suffix : String) :
    ∀ l ∈ linesAll 0 (a.validationBody suffix), l ≠ "" := by
  intro l hl
  rw [Argument.validationBody, linesAll_cons, lines_line, linesAll_eq_flatMap, List.flatMap_map,
    List.mem_append, List.mem_singleton, List.mem_flatMap] at hl
  rcases hl with rfl | ⟨c, -, hl⟩
  · exact indented_ne_empty (by simp) 0
  · simp only [Check.clause, lines_block, linesAll_cons, linesAll_nil, lines_line, List.append_nil,
      List.singleton_append, List.mem_cons, List.not_mem_nil, or_false] at hl
    rcases hl with rfl | rfl | rfl
    · exact indented_ne_empty (by simp) 0
    · exact indented_ne_empty (by simp) 1
    · exact indented_ne_empty (by simp) 0

theorem validation_eq_ok {a : Argument} (h : isIdentifier a.name = true) :
    a.validation = .ok (unlines (linesAll 0 (a.validationBody (suffixOf a.name)))) := by
  rw [Argument.validation, accessorSuffix_eq_ok h]
  rfl

theorem isProcedure_validator {a : Argument} (h : isIdentifier a.name = true) :
    IsProcedure a (a.member.validator.lines 1) := by
  have hnested : ∀ c ∈ a.validationBody (suffixOf a.name), c.WellNested :=
    (validator_wellNested h).body
  have hmoved : linesAll 2 (a.validationBody (suffixOf a.name)) =
      (linesAll 0 (a.validationBody (suffixOf a.name))).map ("        " ++ ·) := by
    rw [← Nat.zero_add 2, linesAll_add (fun c hc => (hnested c hc).filled)]
    refine List.map_congr_left fun l hl => ?_
    rw [moveIn, if_neg (validationBody_lines_ne_empty a _ l hl)]
    rfl
  refine ⟨_, _, accessorSuffix_eq_ok h, validation_eq_ok h,
    (laid_of_wellNested hnested).newline_not_mem, ?_⟩
  rw [← hmoved, Member.validator, lines_block, Argument.member_argument, Argument.member_suffix]
  have hheader : indented 1 ("private void validate" ++ suffixOf a.name ++ "() \x7b") =
      "    private void validate" ++ suffixOf a.name ++ "() \x7b" := by
    rw [indented, String.append_assoc, String.append_assoc, ← String.append_assoc]
    rfl
  rw [hheader]
  rfl

/-! ### All procedures -/

namespace ClassOptions

/-- The part of the body before the dispatcher. -/
def upToDispatcher (o : ClassOptions) (l : List Argument) : List Code :=
  [.blank, o.entryPoint, .blank] ++ ((l.map fun a => a.member.field) ++ [handlerTable] ++
    o.accessors (l.map Argument.member))

theorem classBody_eq_upToDispatcher (o : ClassOptions) (l : List Argument) :
    o.classBody (l.map Argument.member) =
      o.upToDispatcher l ++ o.dispatcher :: .blank ::
        (l.map fun a => a.member.validator).intersperse .blank := by
  rw [classBody_eq, upToDispatcher]
  simp only [List.append_assoc]

/-- The lines of a class up to the dispatcher. -/
def linesUpToDispatcher (o : ClassOptions) (l : List Argument) : List String :=
  linesAll 0 o.preamble ++ indented 0 ("public class " ++ o.className ++ " \x7b") ::
    linesAll 1 (o.upToDispatcher l)

theorem lines_classCode_procedures (o : ClassOptions) (l : List Argument) :
    linesAll 0 (o.classCode (l.map Argument.member)) =
      o.linesUpToDispatcher l ++ (o.dispatcher.lines 1 ++
        "" :: ([""].intercalate (l.map fun a => a.member.validator.lines 1) ++ ["\x7d"])) := by
  have hclose : indented 0 "\x7d" = "\x7d" := rfl
  have hprocedures := linesAll_intersperse_blank 1 (l.map fun a => a.member.validator)
  rw [List.map_map] at hprocedures
  rw [lines_classCode, classBody_eq_upToDispatcher, linesAll_append, linesAll_cons, linesAll_cons,
    lines_blank, hprocedures, hclose, linesUpToDispatcher]
  simp only [List.append_assoc, List.cons_append, List.nil_append, Function.comp_def]

end ClassOptions

section Class

variable {o : ClassOptions} {args : List Argument} (hclass : isIdentifier o.className = true)
  (hnames : ∀ a ∈ args, isIdentifier a.name = true)
include hclass hnames

/-- Before the dispatcher stand the entry point, the setters and the getters. -/
theorem methods_upToDispatcher :
    ((o.upToDispatcher args).flatMap Code.declarations).filterMap Declaration.method? =
      (ClassMethod.main :: (args.map (fun a => .setter (suffixOf a.name)) ++
        args.map fun a => .getter (suffixOf a.name))).map ClassMethod.name := by
  have hbody := declarations_classBody hclass hnames
  have hvalidators := List.flatMap_congr fun a ha => declarations_validator (hnames a ha)
  rw [← List.map_eq_flatMap] at hvalidators
  rw [ClassOptions.classBody_eq_upToDispatcher, List.flatMap_append, List.flatMap_cons,
    List.flatMap_cons, declarations_blank, declarations_dispatcher,
    flatMap_intersperse declarations_blank, List.flatMap_map, hvalidators, List.nil_append,
    List.singleton_append, ← List.cons_append] at hbody
  rw [List.append_cancel_right hbody]
  simp [List.filterMap_append, List.filterMap_cons, List.filterMap_map, Declaration.method?,
    ClassMethod.name, Function.comp_def]

theorem process_not_declared :
    "process" ∉ declaredMethods (unlines (o.linesUpToDispatcher args)) := by
  have hlaid := laid_of_wellNested (classCode_wellNested (o := o) hclass hnames)
  have hlines : ∀ l ∈ o.linesUpToDispatcher args, '\n' ∉ l.toList := by
    intro l hl
    apply hlaid.newline_not_mem
    rw [ClassOptions.lines_classCode_procedures]
    exact List.mem_append_left _ hl
  have hnested : ∀ c ∈ o.upToDispatcher args, c.WellNested := by
    intro c hc
    apply classBody_wellNested hclass hnames
    rw [ClassOptions.classBody_eq_upToDispatcher]
    exact List.mem_append_left _ hc
  have hdeclared : declarations (unlines (o.linesUpToDispatcher args)) =
      (o.upToDispatcher args).flatMap Code.declarations := by
    have hfirst : ("public class " ++ o.className ++ " \x7b").toList.head? = some 'p' := by simp
    have hheader := sourceLine_indented hfirst (by decide) 0
    rw [declarations, sourceLines_unlines hlines, ClassOptions.linesUpToDispatcher,
      List.map_append, List.map_cons, map_linesAll preamble_wellNested, map_linesAll hnested,
      hheader, List.filterMap_append, declares_nothing (indent_preamble o), List.nil_append,
      List.filterMap_cons_none (declaration?_of_indent (by simp)), filterMap_sourceLinesAll]
  rw [declaredMethods, hdeclared, methods_upToDispatcher hclass hnames]
  -- the first letter of a method tells its sort
  intro hprocess
  have hmem := (List.mem_map_of_injective ClassMethod.name_injective
    (a := ClassMethod.process)).1 hprocess
  simp at hmem

end Class

/-- **The validation procedures follow the dispatcher and end the class.** -/
theorem classText_procedures {s : ArgumentList} {o : ClassOptions} {text : String}
    (h : s.classText o = .ok text) :
    ∃ before procedures,
      text = unlines (before ++ (o.dispatcher.lines 1 ++
        "" :: ([""].intercalate procedures ++ ["\x7d"]))) ∧
      List.Forall₂ IsProcedure s.arguments procedures ∧
      "process" ∉ declaredMethods (unlines before) := by
  obtain ⟨hclass, hnames, rfl⟩ := ArgumentList.classText_eq_ok_iff.1 h
  refine ⟨o.linesUpToDispatcher s.arguments, s.arguments.map fun a => a.member.validator.lines 1,
    ?_, ?_, process_not_declared hclass hnames⟩
  · rw [codeText, ClassOptions.lines_classCode_procedures]
  · rw [List.forall₂_map_right_iff, List.forall₂_same]
    intro a ha
    exact isProcedure_validator (hnames a ha)

/-- The validation of the second argument has no clauses. -/
theorem classText_procedures_two_arguments :
    ∃ text before first second,
      (ArgumentList.ofArguments
        [⟨"élan", " Path", true, false, true, false⟩,
          ⟨"v", "", false, false, false, false⟩]).classText {} = .ok text ∧
      text = unlines (before ++ (ClassOptions.dispatcher {}).lines 1 ++
        "" :: (first ++ "" :: second ++ ["\x7d"])) ∧
      IsProcedure ⟨"élan", " Path", true, false, true, false⟩ first ∧
      IsProcedure ⟨"v", "", false, false, false, false⟩ second ∧
      Argument.validation ⟨"v", "", false, false, false, false⟩ =
        .ok "String value = Objects.toString(getV(), \"\");\n" := by
  have h := ArgumentList.classText_eq_ok_iff
    (s := .ofArguments
      [⟨"élan", " Path", true, false, true, false⟩, ⟨"v", "", false, false, false, false⟩])
    (o := {}) |>.2 ⟨by decide, by decide, rfl⟩
  obtain ⟨before, procedures, htext, hprocedures, -⟩ := classText_procedures h
  obtain ⟨first, rest, hfirst, hrest, rfl⟩ := List.forall₂_cons_left_iff.1 hprocedures
  obtain ⟨second, rest, hsecond, hnil, rfl⟩ := List.forall₂_cons_left_iff.1 hrest
  obtain rfl := List.forall₂_nil_left_iff.1 hnil
  refine ⟨_, before, first, second, h, ?_, hfirst, hsecond, rfl⟩
  rw [htext]
  simp [List.intercalate_cons_cons]

end ArgProcessor
