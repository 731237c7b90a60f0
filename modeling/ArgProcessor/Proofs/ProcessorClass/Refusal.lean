/-
  ArgProcessor/Proofs/ProcessorClass/Refusal.lean
  ===============================================
  **Which classes cannot be generated, and what is said about them.**

  The class name is looked at first.  Then the arguments are gone through in order, and the first
  one whose name is no identifier is named by its position, counted from 1
  (`Member.ofArguments_eq_error_iff`).  The messages are those of `Refusal`, and neither the
  separator nor the language has a part in them.

  Reading an argument list asks the same of a name as generating a class (`classText_refused`),
  so a list that was read can be generated under every class name that is an identifier.
-/
import ArgProcessor.Command.Generate
import ArgProcessor.Proofs.ArgumentList.Admission
import ArgProcessor.Proofs.ProcessorClass.Members

namespace ArgProcessor

/-! ### What is said -/

/-- The first argument whose name is no identifier, with its position counted from 1. -/
structure IsFirstUnusable (args : List Argument) (position : Nat) (a : Argument) : Prop where
  counted : 1 ≤ position
  found : args[position - 1]? = some a
  unusable : ¬isIdentifier a.name = true
  earlier : ∀ n b, 1 ≤ n → n < position → args[n - 1]? = some b → isIdentifier b.name = true

/-- What is said when no class can be generated: the messages, the outermost first, and the name
    error at their root, if there is one. -/
inductive Refusal (className : String) (args : List Argument) :
    List String → Option NameError → Prop
  | className (hclass : ¬isIdentifier className = true) :
      Refusal className args ["invalid class name '" ++ className ++ "'"] none
  | unnamed {position : Nat} {a : Argument} (hclass : isIdentifier className = true)
      (hfirst : IsFirstUnusable args position a) (hname : a.name = "") :
      Refusal className args
        ["argument #" ++ toString position ++ " has no usable name", "argument name is empty"]
        (some .empty)
  | notIdentifier {position : Nat} {a : Argument} (hclass : isIdentifier className = true)
      (hfirst : IsFirstUnusable args position a) (hname : a.name ≠ "") :
      Refusal className args
        ["argument #" ++ toString position ++ " name '" ++ a.name ++ "' is not an identifier"] none

theorem isFirstUnusable_iff {args : List Argument} {position : Nat} {a : Argument} :
    IsFirstUnusable args position a ↔
      ∃ before after, args = before ++ a :: after ∧ position = before.length + 1 ∧
        (∀ b ∈ before, isIdentifier b.name = true) ∧ ¬isIdentifier a.name = true := by
  constructor
  · rintro ⟨hcounted, hfound, hunusable, hearlier⟩
    obtain ⟨hlt, rfl⟩ := List.getElem?_eq_some_iff.1 hfound
    refine ⟨args.take (position - 1), args.drop (position - 1 + 1), ?_, ?_, ?_, hunusable⟩
    · rw [← List.drop_eq_getElem_cons, List.take_append_drop]
    · rw [List.length_take_of_le (by omega)]
      omega
    · intro b hb
      obtain ⟨i, hi, rfl⟩ := List.mem_take_iff_getElem.1 hb
      exact hearlier (i + 1) _ (by omega) (by omega) (List.getElem?_eq_getElem (by omega))
  · rintro ⟨before, after, rfl, rfl, hbefore, hunusable⟩
    refine ⟨by omega, by simp, hunusable, fun n b hn hlt hb => hbefore b ?_⟩
    rw [List.getElem?_append_left (by omega)] at hb
    exact List.mem_of_getElem? hb

/-! ### The first argument at fault -/

/-- What is wrong with an argument whose name is no identifier. -/
def nameFault (position : Nat) (name : String) : ClassError :=
  if name = "" then .unnamedArgument position .empty else .invalidArgumentName position name

theorem Member.ofArgument_eq_error {position : Nat} {a : Argument}
    (h : ¬isIdentifier a.name = true) :
    Member.ofArgument position a = .error (nameFault position a.name) := by
  unfold Member.ofArgument nameFault
  cases hs : accessorSuffix a.name with
  | error e =>
    cases e
    rw [if_pos (accessorSuffix_eq_error_iff.1 hs)]
  | ok suffix =>
    have hne : a.name ≠ "" := fun he => by
      rw [accessorSuffix_eq_error_iff (e := .empty).2 he] at hs
      cases hs
    simp [h, hne]

theorem Member.ofArguments_cons_of_unusable {position : Nat} {a : Argument} {rest : List Argument}
    (h : ¬isIdentifier a.name = true) :
    Member.ofArguments position (a :: rest) = .error (nameFault position a.name) := by
  rw [Member.ofArguments, Member.ofArgument_eq_error h]

theorem Member.ofArguments_cons_of_usable {position : Nat} {a : Argument} {rest : List Argument}
    {e : ClassError} (h : isIdentifier a.name = true) :
    Member.ofArguments position (a :: rest) = .error e ↔
      Member.ofArguments (position + 1) rest = .error e := by
  rw [Member.ofArguments, Member.ofArgument_eq_ok_iff.2 ⟨h, rfl⟩]
  cases Member.ofArguments (position + 1) rest <;> simp

/-- **The first argument whose name is no identifier is the one that is named.** -/
theorem Member.ofArguments_eq_error_iff {position : Nat} {l : List Argument} {e : ClassError} :
    Member.ofArguments position l = .error e ↔
      ∃ a before after, l = before ++ a :: after ∧ (∀ b ∈ before, isIdentifier b.name = true) ∧
        ¬isIdentifier a.name = true ∧ e = nameFault (position + before.length) a.name := by
  induction l generalizing position with
  | nil => simp [Member.ofArguments]
  | cons b rest ih =>
    have hfirst := fun a : Argument =>
      exists_first_cons_iff (fun b : Argument => isIdentifier b.name = true)
        (fun before => e = nameFault (position + before.length) a.name) (x := a) (y := b)
        (l := rest)
    rw [exists_congr hfirst]
    by_cases hb : isIdentifier b.name = true
    · have hposition : ∀ before : List Argument,
          position + (b :: before).length = position + 1 + before.length := fun before => by
        rw [List.length_cons, Nat.add_assoc, Nat.add_comm 1]
      rw [Member.ofArguments_cons_of_usable hb, ih]
      simp only [hb, not_true_eq_false, false_and, false_or, true_and, hposition]
    · rw [Member.ofArguments_cons_of_unusable hb, Except.error.injEq]
      simp only [hb, Bool.false_eq_true, not_false_eq_true, true_and, false_and, or_false,
        exists_eq_left']
      exact eq_comm

namespace ArgumentList

/-! ### Classes that cannot be generated -/

theorem classText_eq_error_iff_members {s : ArgumentList} {o : ClassOptions} {e : ClassError} :
    s.classText o = .error e ↔ o.members s = .error e := by
  unfold classText
  cases o.members s <;> simp [Except.map]

theorem classText_eq_error_iff {s : ArgumentList} {o : ClassOptions} {e : ClassError} :
    s.classText o = .error e ↔
      (¬isIdentifier o.className = true ∧ e = .invalidClassName o.className) ∨
        isIdentifier o.className = true ∧
          ∃ position a, IsFirstUnusable s.arguments position a ∧ e = nameFault position a.name := by
  rw [classText_eq_error_iff_members, ClassOptions.members]
  by_cases hclass : isIdentifier o.className = true
  · rw [if_pos hclass, Member.ofArguments_eq_error_iff]
    simp only [hclass, not_true_eq_false, false_and, false_or, true_and, isFirstUnusable_iff]
    constructor
    · rintro ⟨a, before, after, hl, hbefore, ha, rfl⟩
      exact ⟨_, a, ⟨before, after, hl, rfl, hbefore, ha⟩, by rw [Nat.add_comm]⟩
    · rintro ⟨_, a, ⟨before, after, hl, rfl, hbefore, ha⟩, rfl⟩
      exact ⟨a, before, after, hl, hbefore, ha, by rw [Nat.add_comm]⟩
  · rw [if_neg hclass, Except.error.injEq]
    simp [hclass, eq_comm]

theorem exists_classText_eq_ok_iff {s : ArgumentList} {o : ClassOptions} :
    (∃ text, s.classText o = .ok text) ↔
      isIdentifier o.className = true ∧ ∀ a ∈ s.arguments, isIdentifier a.name = true := by
  simp only [classText_eq_ok_iff, exists_and_left, exists_eq, and_true]

theorem exists_classText_eq_error_iff {s : ArgumentList} {o : ClassOptions} :
    (∃ e, s.classText o = .error e) ↔
      ¬isIdentifier o.className = true ∨ ∃ a ∈ s.arguments, ¬isIdentifier a.name = true := by
  have hfails : (∃ e, s.classText o = .error e) ↔ ¬∃ text, s.classText o = .ok text := by
    cases s.classText o <;> simp
  rw [hfails, exists_classText_eq_ok_iff, not_and_or]
  simp only [not_forall, exists_prop]

theorem refusal_iff {s : ArgumentList} {o : ClassOptions} {chain : List String}
    {cause : Option NameError} :
    (∃ e, s.classText o = .error e ∧ e.chain = chain ∧
        (GenerateError.invalid e).nameError? = cause) ↔
      Refusal o.className s.arguments chain cause := by
  constructor
  · rintro ⟨e, he, rfl, rfl⟩
    rcases classText_eq_error_iff.1 he with ⟨hclass, rfl⟩ | ⟨hclass, position, a, hfirst, rfl⟩
    · exact .className hclass
    · by_cases hname : a.name = ""
      · rw [nameFault, if_pos hname]
        exact .unnamed hclass hfirst hname
      · rw [nameFault, if_neg hname]
        exact .notIdentifier hclass hfirst hname
  · intro h
    cases h with
    | className hclass => exact ⟨_, classText_eq_error_iff.2 (Or.inl ⟨hclass, rfl⟩), rfl, rfl⟩
    | unnamed hclass hfirst hname =>
      refine ⟨_, classText_eq_error_iff.2 (Or.inr ⟨hclass, _, _, hfirst, rfl⟩), ?_⟩
      rw [nameFault, if_pos hname]
      exact ⟨rfl, rfl⟩
    | notIdentifier hclass hfirst hname =>
      refine ⟨_, classText_eq_error_iff.2 (Or.inr ⟨hclass, _, _, hfirst, rfl⟩), ?_⟩
      rw [nameFault, if_neg hname]
      exact ⟨rfl, rfl⟩

theorem exists_classText_names_iff (name : String) :
    (∃ (s : ArgumentList) (o : ClassOptions) (text : String),
        s.classText o = .ok text ∧ name ∈ s.names) ↔ isIdentifier name = true := by
  constructor
  · rintro ⟨s, o, text, htext, hname⟩
    obtain ⟨-, hnames, -⟩ := classText_eq_ok_iff.1 htext
    obtain ⟨a, ha, rfl⟩ := List.mem_map.1 hname
    exact hnames a ha
  · intro h
    obtain ⟨text, htext⟩ := exists_classText_eq_ok_iff
      (s := ofArguments [⟨name, "", false, false, false, false⟩]) (o := {}) |>.2
      ⟨by decide, List.forall_mem_singleton.2 h⟩
    exact ⟨_, _, text, htext, List.mem_singleton_self name⟩

/-- **A class is refused for its name or else for the first name that cannot be used**, whatever
    the separator and the language.  Reading and generating admit the same names of arguments. -/
theorem classText_refused (s : ArgumentList) (o : ClassOptions) :
    ((∃ e, s.classText o = .error e) ↔
      ¬isIdentifier o.className = true ∨ ∃ a ∈ s.arguments, ¬isIdentifier a.name = true) ∧
    (∀ chain cause,
      (∃ e, s.classText o = .error e ∧ e.chain = chain ∧
          (GenerateError.invalid e).nameError? = cause) ↔
        Refusal o.className s.arguments chain cause) ∧
    (∀ language separator e,
      s.classText { o with language, separator } = .error e ↔ s.classText o = .error e) ∧
    (∀ content source t, read content source = .ok t → isIdentifier o.className = true →
      ∃ text, t.classText o = .ok text) ∧
    ∀ name,
      (∃ content source t, read content source = .ok t ∧ name ∈ t.names) ↔
        ∃ (t : ArgumentList) (o' : ClassOptions) (text : String),
          t.classText o' = .ok text ∧ name ∈ t.names := by
  refine ⟨exists_classText_eq_error_iff, fun _ _ => refusal_iff, ?_, ?_, ?_⟩
  · intro language separator e
    rw [classText_eq_error_iff, classText_eq_error_iff]
  · exact fun content source t hread hclass =>
      exists_classText_eq_ok_iff.2 ⟨hclass, isIdentifier_of_read hread⟩
  · intro name
    rw [exists_read_iff, exists_classText_names_iff]

/-- The name that is declared twice stands at the place of its first declaration. -/
theorem classText_refused_second :
    (∃ e,
      (ofArguments
        [⟨"in", "file", false, true, false, false⟩, ⟨"my-arg", "", false, false, false, false⟩,
          ⟨"", "", false, false, false, false⟩,
          ⟨"my-arg", "path", true, false, false, false⟩]).classText { separator := "\n" } =
        .error e ∧
      e.chain = ["argument #2 name 'my-arg' is not an identifier"] ∧
      (GenerateError.invalid e).nameError? = none) ∧
    ∃ t text, read "\n élan ,flag,Yes,,,\r\n" "args.csv" = .ok t ∧
      t.classText { language := "cobol", className := "Args" } = .ok text := by
  constructor
  · have hfirst : IsFirstUnusable
        (ofArguments
          [⟨"in", "file", false, true, false, false⟩, ⟨"my-arg", "", false, false, false, false⟩,
            ⟨"", "", false, false, false, false⟩,
            ⟨"my-arg", "path", true, false, false, false⟩]).arguments
        2 ⟨"my-arg", "path", true, false, false, false⟩ := by
      refine ⟨by decide, by decide, by decide +kernel, fun n b hn hlt hb => ?_⟩
      obtain rfl : n = 1 := by omega
      cases hb
      decide
    exact ((classText_refused _ _).2.1 _ _).2 (.notIdentifier (by decide) hfirst (by decide))
  · have hread : read "\n élan ,flag,Yes,,,\r\n" "args.csv" =
        .ok (ofRows [⟨2, ⟨"élan", "flag", true, false, false, false⟩⟩]) := rfl
    obtain ⟨text, htext⟩ :=
      (classText_refused empty { language := "cobol", className := "Args" }).2.2.2.1 _ _ _ hread
        (by decide)
    exact ⟨_, text, hread, htext⟩

end ArgumentList

end ArgProcessor
