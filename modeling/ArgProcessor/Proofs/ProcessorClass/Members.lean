/-
  ArgProcessor/Proofs/ProcessorClass/Members.lean
  ===============================================
  **When a class has a text, and which one.**

  An argument whose name is an identifier always has a suffix, so its member can be given without
  an error (`Argument.member`).  A class has a text exactly when its name and the names of all
  arguments are identifiers, and the text is then the code of those members
  (`classText_eq_ok_iff`).
-/
import ArgProcessor.ProcessorClass.Basic

namespace ArgProcessor

/-- The suffix of the accessors of a name, nothing for the empty name. -/
def suffixOf (name : String) : String :=
  match accessorSuffix name with
  | .ok suffix => suffix
  | .error _ => ""

/-- The member of an argument whose name is an identifier. -/
def Argument.member (a : Argument) : Member := ⟨a, suffixOf a.name⟩

@[simp] theorem Argument.member_argument (a : Argument) : a.member.argument = a := rfl

@[simp] theorem Argument.member_suffix (a : Argument) : a.member.suffix = suffixOf a.name := rfl

theorem accessorSuffix_eq_ok {name : String} (h : isIdentifier name = true) :
    accessorSuffix name = .ok (suffixOf name) := by
  unfold suffixOf
  cases hs : accessorSuffix name with
  | ok suffix => rfl
  | error e =>
    rw [accessorSuffix_eq_error_iff.1 hs, isIdentifier_empty] at h
    contradiction

/-! ### Members of arguments -/

theorem Member.ofArgument_eq_ok_iff {position : Nat} {a : Argument} {m : Member} :
    Member.ofArgument position a = .ok m ↔ isIdentifier a.name = true ∧ m = a.member := by
  by_cases h : isIdentifier a.name = true
  · have hm : Member.ofArgument position a = .ok a.member := by
      simp only [Member.ofArgument, accessorSuffix_eq_ok h, if_pos h, Argument.member]
    rw [hm, Except.ok.injEq]
    exact ⟨fun e => ⟨h, e.symm⟩, fun e => e.2.symm⟩
  · unfold Member.ofArgument
    split <;> simp [h]

theorem Member.ofArguments_eq_ok_iff {position : Nat} {l : List Argument} {ms : List Member} :
    Member.ofArguments position l = .ok ms ↔
      (∀ a ∈ l, isIdentifier a.name = true) ∧ ms = l.map Argument.member := by
  induction l generalizing position ms with
  | nil =>
    simp only [Member.ofArguments, Except.ok.injEq, List.map_nil]
    exact ⟨fun h => ⟨by simp, h.symm⟩, fun h => h.2.symm⟩
  | cons a rest ih =>
    rw [Member.ofArguments]
    cases ha : Member.ofArgument position a with
    | error e =>
      have hn : ¬isIdentifier a.name = true := fun h => by
        rw [Member.ofArgument_eq_ok_iff.2 ⟨h, rfl⟩] at ha
        cases ha
      simp [hn]
    | ok m =>
      obtain ⟨hname, rfl⟩ := Member.ofArgument_eq_ok_iff.1 ha
      cases hr : Member.ofArguments (position + 1) rest with
      | error e =>
        have hn : ¬∀ b ∈ rest, isIdentifier b.name = true := fun h => by
          rw [ih.2 ⟨h, rfl⟩] at hr
          cases hr
        simp only [reduceCtorEq, List.forall_mem_cons, false_iff]
        exact fun h => hn h.1.2
      | ok ms' =>
        obtain ⟨hnames, rfl⟩ := ih.1 hr
        simp only [Except.ok.injEq, List.forall_mem_cons, List.map_cons]
        exact ⟨fun h => ⟨⟨hname, hnames⟩, h.symm⟩, fun h => h.2.symm⟩

/-! ### The text of a class -/

/-- **A class has a text exactly when all its names are identifiers.** -/
theorem ArgumentList.classText_eq_ok_iff {s : ArgumentList} {o : ClassOptions} {text : String} :
    s.classText o = .ok text ↔
      isIdentifier o.className = true ∧ (∀ a ∈ s.arguments, isIdentifier a.name = true) ∧
        text = codeText 0 (o.classCode (s.arguments.map Argument.member)) := by
  unfold ArgumentList.classText ClassOptions.members
  split
  · next hclass =>
    cases hm : Member.ofArguments 1 s.arguments with
    | error e =>
      have hn : ¬∀ a ∈ s.arguments, isIdentifier a.name = true := fun h => by
        rw [Member.ofArguments_eq_ok_iff.2 ⟨h, rfl⟩] at hm
        cases hm
      simp only [Except.map, reduceCtorEq, false_iff]
      exact fun h => hn h.2.1
    | ok ms =>
      obtain ⟨hnames, rfl⟩ := Member.ofArguments_eq_ok_iff.1 hm
      simp only [Except.map, Except.ok.injEq]
      exact ⟨fun h => ⟨hclass, hnames, h.symm⟩, fun h => h.2.2.symm⟩
  · next hclass => simp [Except.map, hclass]

end ArgProcessor
