/-
  ArgProcessor/Proofs/ProcessorClass/Frame.lean
  =============================================
  **Declaring an argument changes the class in the fragments of that argument only.**

  The lines of a class are a skeleton that does not depend on the arguments, with five sections in
  it, and a section is made of one fragment for each argument (`lines_classCode_skeleton`).  The
  fragments of the other arguments can be taken to the skeleton, which leaves a frame around those
  of a single one.  An argument that is declared again has other fragments in the same frame, and
  one that is new is put into a frame that had nothing in it (`classText_insert`).
-/
import ArgProcessor.Proofs.ArgumentList.Insertion
import ArgProcessor.Proofs.ProcessorClass.Contents
import ArgProcessor.Proofs.ProcessorClass.Sections

namespace ArgProcessor

open Code

/-! ### Lists joined by a gap -/

/-- The gap in front of what comes after a list; there is none after the empty one. -/
def gapAfter {α β : Type} (l : List β) (gap : List α) : List α := if l.isEmpty then [] else gap

theorem intercalate_around {α : Type} (gap x : List α) (before after : List (List α)) :
    gap.intercalate (before ++ x :: after) =
      gap.intercalate before ++ gapAfter before gap ++ x ++ after.flatMap (gap ++ ·) := by
  cases before with
  | nil => simp [intercalate_cons, gapAfter]
  | cons y ys => simp [intercalate_cons, gapAfter]

/-! ### Frames -/

/-- The lines of a class before, between and after five fragments. -/
structure Frame where
  beforeField : List String
  beforeHandler : List String
  beforeSetter : List String
  beforeGetter : List String
  beforeValidator : List String
  afterValidator : List String

namespace Frame

/-- The lines of a frame with something put in each of the five places. -/
def around (p : Frame) (inside : ClassSection → List String) : List String :=
  p.beforeField ++ inside .fields ++ p.beforeHandler ++ inside .handlers ++ p.beforeSetter ++
    inside .setters ++ p.beforeGetter ++ inside .getters ++ p.beforeValidator ++
      inside .validators ++ p.afterValidator

/-- The frame that has some more lines before and after each of the five places. -/
def widen (p : Frame) (before after : ClassSection → List String) : Frame where
  beforeField := p.beforeField ++ before .fields
  beforeHandler := after .fields ++ p.beforeHandler ++ before .handlers
  beforeSetter := after .handlers ++ p.beforeSetter ++ before .setters
  beforeGetter := after .setters ++ p.beforeGetter ++ before .getters
  beforeValidator := after .getters ++ p.beforeValidator ++ before .validators
  afterValidator := after .validators ++ p.afterValidator

theorem around_widen (p : Frame) (before inside after : ClassSection → List String) :
    (p.widen before after).around inside =
      p.around fun x => before x ++ inside x ++ after x := by
  simp only [around, widen, List.append_assoc]

/-- **What a frame has without anything inside survives in order** when its places are filled. -/
theorem around_nil_sublist (p : Frame) (inside : ClassSection → List String) :
    (p.around fun _ => []).Sublist (p.around inside) := by
  have hfill : ∀ {ls ms : List String} (x : ClassSection) (piece : List String),
      ls.Sublist ms → (ls ++ [] ++ piece).Sublist (ms ++ inside x ++ piece) := by
    intro ls ms x piece h
    exact (h.append (List.nil_sublist _)).append (List.Sublist.refl piece)
  exact hfill _ _ (hfill _ _ (hfill _ _ (hfill _ _ (hfill _ _ (List.Sublist.refl _)))))

end Frame

/-! ### Sections -/

/-- The lines of an argument in a section.  An accessor goes with the blank line after it. -/
def Argument.fragment (a : Argument) : ClassSection → List String
  | .fields => a.member.field.lines 1
  | .handlers => a.member.handler.lines 2
  | .setters => a.member.setter.lines 1 ++ [""]
  | .getters => a.member.getter.lines 1 ++ [""]
  | .validators => a.member.validator.lines 1

namespace ClassSection

/-- What stands between two fragments of a section. -/
def gap : ClassSection → List String
  | validators => [""]
  | _ => []

/-- The lines of a section of a class. -/
def lines (l : List Argument) (x : ClassSection) : List String :=
  x.gap.intercalate (l.map (·.fragment x))

theorem lines_of_gap_eq_nil {x : ClassSection} (h : x.gap = []) (l : List Argument) :
    x.lines l = l.flatMap (·.fragment x) := by
  cases l with
  | nil => rfl
  | cons a l =>
    rw [lines, h, List.map_cons, intercalate_cons, List.flatMap_map]
    rfl

/-- The fragment of one argument in a section with those of the others around it. -/
theorem lines_around (x : ClassSection) (before after : List Argument) (a : Argument) :
    x.lines (before ++ a :: after) =
      x.lines before ++ gapAfter before x.gap ++ a.fragment x ++
        after.flatMap (x.gap ++ ·.fragment x) := by
  rw [lines, lines, List.map_append, List.map_cons, intercalate_around, List.flatMap_map, gapAfter,
    gapAfter, List.isEmpty_map]

end ClassSection

/-- The lines of a class around its sections. -/
def ClassOptions.skeleton (o : ClassOptions) : Frame where
  beforeField := linesAll 0 o.preamble ++
    indented 0 ("public class " ++ o.className ++ " \x7b") ::
      linesAll 1 [.blank, o.entryPoint, .blank]
  beforeHandler := linesAll 1 [handlerTable, .blank] ++
    [indented 1 ("public " ++ o.className ++ "() \x7b")]
  beforeSetter := [indented 1 "\x7d", ""]
  beforeGetter := []
  beforeValidator := linesAll 1 [o.dispatcher, .blank]
  afterValidator := [indented 0 "\x7d"]

/-- **A class is a skeleton of its own with the sections of its arguments inside.** -/
theorem lines_classCode_skeleton (o : ClassOptions) (l : List Argument) :
    linesAll 0 (o.classCode (l.map Argument.member)) =
      o.skeleton.around fun x => x.lines l := by
  have hfields : linesAll 1 (l.map fun a => a.member.field) = ClassSection.fields.lines l := by
    rw [ClassSection.lines_of_gap_eq_nil rfl, linesAll_eq_flatMap, List.flatMap_map]
    rfl
  have hhandlers : linesAll 2 (l.map fun a => a.member.handler) =
      ClassSection.handlers.lines l := by
    rw [ClassSection.lines_of_gap_eq_nil rfl, linesAll_eq_flatMap, List.flatMap_map]
    rfl
  have haccessors : ∀ accessor : Argument → Code,
      linesAll 1 (l.flatMap fun a => [accessor a, .blank]) =
        l.flatMap fun a => (accessor a).lines 1 ++ [""] := by
    intro accessor
    rw [linesAll_eq_flatMap, List.flatMap_assoc]
    exact List.flatMap_congr fun a _ => by simp
  have hsetters : linesAll 1 (l.flatMap fun a => [a.member.setter, .blank]) =
      ClassSection.setters.lines l := by
    rw [ClassSection.lines_of_gap_eq_nil rfl, haccessors]
    rfl
  have hgetters : linesAll 1 (l.flatMap fun a => [a.member.getter, .blank]) =
      ClassSection.getters.lines l := by
    rw [ClassSection.lines_of_gap_eq_nil rfl, haccessors]
    rfl
  have hvalidators : linesAll 1 ((l.map fun a => a.member.validator).intersperse .blank) =
      ClassSection.validators.lines l := by
    rw [linesAll_intersperse_blank, List.map_map]
    rfl
  rw [ClassOptions.lines_classCode, ClassOptions.classBody_eq]
  simp only [ClassOptions.accessors, ClassOptions.constructor, List.map_map, List.flatMap_map,
    Function.comp_def, linesAll_append, linesAll_cons, linesAll_nil, lines_blank, lines_block,
    hfields, hhandlers, hsetters, hgetters, hvalidators, Frame.around, ClassOptions.skeleton]
  simp only [List.append_assoc, List.cons_append, List.nil_append]

/-! ### The text -/

section Text

variable {s : ArgumentList} {o : ClassOptions} {text : String} (h : s.classText o = .ok text)
include h

theorem classText_eq_around : text = unlines (o.skeleton.around fun x => x.lines s.arguments) := by
  obtain ⟨-, -, rfl⟩ := ArgumentList.classText_eq_ok_iff.1 h
  rw [codeText, lines_classCode_skeleton]

theorem classText_eq_fragment {before after : List Argument} {a : Argument}
    (hsplit : s.arguments = before ++ a :: after) :
    text = unlines ((o.skeleton.widen
      (fun x => x.lines before ++ gapAfter before x.gap)
      (fun x => after.flatMap (x.gap ++ ·.fragment x))).around a.fragment) := by
  rw [classText_eq_around h, hsplit, Frame.around_widen]
  simp only [ClassSection.lines_around]

theorem splitOn_classText :
    text.toList.splitOn '\n' =
      (o.skeleton.around fun x => x.lines s.arguments).map String.toList ++ [[]] := by
  obtain ⟨hclass, hnames, rfl⟩ := ArgumentList.classText_eq_ok_iff.1 h
  rw [← lines_classCode_skeleton]
  exact splitOn_unlines (laid_of_wellNested (classCode_wellNested hclass hnames)).newline_not_mem

end Text

/-- **Declaring an argument changes the text of a class in its fragments only.**  An argument
    declared again has other fragments in the same frame, and a new one adds its fragments to a
    frame whose lines all stay. -/
theorem classText_insert {s : ArgumentList} {o : ClassOptions} {a : Argument}
    {text text' : String} (h : s.classText o = .ok text)
    (h' : (s.insert a).classText o = .ok text') :
    (∀ b, s.get? a.name = some b →
      ∃ p : Frame, text = unlines (p.around b.fragment) ∧ text' = unlines (p.around a.fragment)) ∧
    (s.get? a.name = none →
      (∃ p : Frame, text = unlines (p.around fun _ => []) ∧
        text' = unlines (p.around fun x => gapAfter s.arguments x.gap ++ a.fragment x)) ∧
      (text.toList.splitOn '\n').Sublist (text'.toList.splitOn '\n')) := by
  constructor
  · intro b hb
    -- `a` takes the place of `b`, so the same arguments stand before and after it
    obtain ⟨before, after, hsplit, hinsert⟩ := upsert_of_find? hb
    exact ⟨_, classText_eq_fragment h hsplit,
      classText_eq_fragment h' ((ArgumentList.arguments_insert s a).trans hinsert)⟩
  · intro hnone
    have hinsert := ArgumentList.arguments_insert_of_get?_eq_none hnone
    have hold : (o.skeleton.around fun x => x.lines s.arguments) =
        (o.skeleton.widen (·.lines s.arguments) fun _ => []).around fun _ => [] := by
      simp only [Frame.around_widen, List.append_nil]
    have hadded : (o.skeleton.around fun x => x.lines (s.insert a).arguments) =
        (o.skeleton.widen (·.lines s.arguments) fun _ => []).around
          fun x => gapAfter s.arguments x.gap ++ a.fragment x := by
      simp only [Frame.around_widen, hinsert, ClassSection.lines_around, List.flatMap_nil,
        List.append_assoc]
    refine ⟨⟨o.skeleton.widen (·.lines s.arguments) fun _ => [], ?_, ?_⟩, ?_⟩
    · rw [classText_eq_around h, hold]
    · rw [classText_eq_around h', hadded]
    · rw [splitOn_classText h, splitOn_classText h', hold, hadded]
      exact ((Frame.around_nil_sublist _ _).map String.toList).append_right _

/-- The first of two arguments is declared again with another type, and then a third one is
    declared. -/
theorem classText_insert_again_and_new :
    let first : Argument := ⟨"in", "file", true, false, true, false⟩
    let second : Argument := ⟨"out", "path", false, false, false, true⟩
    let again : Argument := ⟨"in", "flag", false, false, false, false⟩
    let third : Argument := ⟨"élan", "", false, false, false, false⟩
    ∃ text text' text'',
      (ArgumentList.ofArguments [first, second]).classText {} = .ok text ∧
      (ArgumentList.ofArguments [again, second]).classText {} = .ok text' ∧
      (ArgumentList.ofArguments [first, second, third]).classText {} = .ok text'' ∧
      (∃ p : Frame, text = unlines (p.around first.fragment) ∧
        text' = unlines (p.around again.fragment)) ∧
      (∃ p : Frame, text = unlines (p.around fun _ => []) ∧
        text'' = unlines (p.around fun x => x.gap ++ third.fragment x)) ∧
      (text.toList.splitOn '\n').Sublist (text''.toList.splitOn '\n') := by
  intro first second again third
  have htext := ArgumentList.classText_eq_ok_iff (s := .ofArguments [first, second]) (o := {}) |>.2
    ⟨by decide, by decide, rfl⟩
  have hagain := ArgumentList.classText_eq_ok_iff
    (s := (ArgumentList.ofArguments [first, second]).insert again) (o := {}) |>.2
    ⟨by decide, by decide, rfl⟩
  have hthird := ArgumentList.classText_eq_ok_iff
    (s := (ArgumentList.ofArguments [first, second]).insert third) (o := {}) |>.2
    ⟨by decide, by decide, rfl⟩
  refine ⟨_, _, _, htext, hagain, hthird, ?_, ?_⟩
  · exact (classText_insert htext hagain).1 first rfl
  · exact (classText_insert htext hthird).2 rfl

end ArgProcessor
