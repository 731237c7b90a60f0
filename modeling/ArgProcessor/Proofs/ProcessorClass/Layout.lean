/-
  ArgProcessor/Proofs/ProcessorClass/Layout.lean
  ==============================================
  **The text of a class is well laid out and has a known number of lines.**

  No name and no separator breaks the structure of the class (`classText_wellLaidOut`): outside
  literals its brackets are nested and closed, no literal goes over the end of a line, and each
  line is moved in by the braces open before it.  Each argument adds sixteen lines, a gap before
  the validation procedures after the first one, and three lines for each check asked for.
-/
import ArgProcessor.Proofs.ProcessorClass.Nesting

namespace ArgProcessor

open Code

/-! ### The number of lines -/

theorem length_lines_field (depth : Nat) (m : Member) : (m.field.lines depth).length = 1 := by
  simp [Member.field]

theorem length_lines_handler (depth : Nat) (m : Member) : (m.handler.lines depth).length = 4 := by
  simp [Member.handler]

theorem length_lines_setter (depth : Nat) (m : Member) : (m.setter.lines depth).length = 3 := by
  simp [Member.setter]

theorem length_lines_getter (depth : Nat) (m : Member) : (m.getter.lines depth).length = 3 := by
  simp [Member.getter]

theorem length_lines_clause (depth : Nat) (name : String) (c : Check) :
    ((c.clause name).lines depth).length = 3 := by
  simp [Check.clause]

theorem length_lines_validator (depth : Nat) (m : Member) :
    (m.validator.lines depth).length = 3 + 3 * m.argument.checks.length := by
  have hclauses :=
    length_linesAll_map (depth + 1) 3 m.argument.checks (length_lines_clause _ m.argument.name)
  simp only [Member.validator, Argument.validationBody, lines_block, linesAll_cons, lines_line,
    List.length_cons, List.length_append, List.length_nil, hclauses]
  omega

theorem length_preamble (o : ClassOptions) :
    (linesAll 0 o.preamble).length = if isKnownLanguage o.language then 9 else 0 := by
  unfold ClassOptions.preamble importsFor
  cases isKnownLanguage o.language with
  | true => simp [classImports]
  | false => simp

/-- The number of checks asked for, over all arguments. -/
def checkCount (args : List Argument) : Nat := (args.flatMap (·.checks)).length

theorem length_validators (args : List Argument) :
    (linesAll 1 (((args.map Argument.member).map Member.validator).intersperse .blank)).length =
      3 * args.length + 3 * checkCount args + (args.length - 1) := by
  have hvalidators : ∀ l : List Argument,
      (linesAll 1 ((l.map Argument.member).map Member.validator)).length =
        3 * l.length + 3 * checkCount l := by
    intro l
    induction l with
    | nil => rfl
    | cons a l ih =>
      rw [List.map_cons, List.map_cons, linesAll_cons, List.length_append, ih,
        length_lines_validator]
      simp only [checkCount, List.flatMap_cons, List.length_append, List.length_cons,
        Argument.member_argument]
      omega
  rw [length_linesAll_intersperse, hvalidators, List.length_map, List.length_map]

theorem length_classBody (o : ClassOptions) (args : List Argument) :
    (linesAll 1 (o.classBody (args.map Argument.member))).length =
      25 + 16 * args.length + 3 * checkCount args + (args.length - 1) := by
  have hfields := length_linesAll_map 1 1 (args.map Argument.member) (length_lines_field 1)
  have hhandlers := length_linesAll_map 2 4 (args.map Argument.member) (length_lines_handler 2)
  have hsetters := length_linesAll_flatMap 1 4 (args.map Argument.member)
    (f := fun m => [m.setter, .blank]) fun m => by simp [length_lines_setter]
  have hgetters := length_linesAll_flatMap 1 4 (args.map Argument.member)
    (f := fun m => [m.getter, .blank]) fun m => by simp [length_lines_getter]
  simp only [List.length_map] at hfields hhandlers hsetters hgetters
  simp only [ClassOptions.classBody, ClassOptions.entryPoint, ClassOptions.handlerTable,
    ClassOptions.constructor, ClassOptions.dispatcher, linesAll_append, linesAll_cons,
    linesAll_nil, lines_block, lines_line, lines_blank, List.length_append, List.length_cons,
    List.length_nil, hfields, hhandlers, hsetters, hgetters, length_validators]
  omega

theorem length_classCode (o : ClassOptions) (args : List Argument) :
    (linesAll 0 (o.classCode (args.map Argument.member))).length =
      27 + 16 * args.length + 3 * checkCount args + (args.length - 1) +
        if isKnownLanguage o.language then 9 else 0 := by
  simp only [ClassOptions.classCode, linesAll_append, linesAll_cons, linesAll_nil, lines_block,
    List.length_append, List.length_cons, List.length_nil, length_preamble, Nat.zero_add,
    length_classBody]
  omega

/-! ### The text -/

/-- **The text of a class is well laid out**, ends with a line feed, and has a number of lines
    that depends on the arguments, the checks asked for and the language only. -/
theorem classText_wellLaidOut {s : ArgumentList} {o : ClassOptions} {text : String}
    (h : s.classText o = .ok text) :
    WellLaidOut text.toList ∧ text.toList.getLast? = some '\n' ∧
      text.toList.count '\n' =
        27 + 16 * s.size + 3 * checkCount s.arguments + (s.size - 1) +
          if isKnownLanguage o.language then 9 else 0 := by
  obtain ⟨hclass, hnames, rfl⟩ := ArgumentList.classText_eq_ok_iff.1 h
  have hlaid := laid_of_wellNested (classCode_wellNested (o := o) hclass hnames)
  have hlength := length_classCode o s.arguments
  refine ⟨hlaid.wellLaidOut, getLast?_unlines ?_, ?_⟩
  · intro hnil
    rw [hnil, List.length_nil] at hlength
    omega
  · rw [codeText, count_newline_unlines hlaid.newline_not_mem]
    exact hlength

/-- A separator that looks like the end of its literal and of the class. -/
theorem classText_wellLaidOut_hostile_separator :
    ∃ text,
      (ArgumentList.ofArguments
        [⟨"out", "path", true, true, false, false⟩,
          ⟨"élan", "flag", false, false, false, false⟩]).classText
        { separator := "\"), 2);\n\x7d \\" } = .ok text ∧
      WellLaidOut text.toList ∧ text.toList.getLast? = some '\n' ∧
        text.toList.count '\n' = 75 := by
  refine ⟨_, ArgumentList.classText_eq_ok_iff.2 ⟨by decide, by decide, rfl⟩, ?_⟩
  exact classText_wellLaidOut
    (ArgumentList.classText_eq_ok_iff.2 ⟨by decide, by decide, rfl⟩)

end ArgProcessor
