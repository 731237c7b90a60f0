/-
  ArgProcessor/Proofs/ProcessorClass/Contents.lean
  ================================================
  **What the text of a class tells about its arguments and options.**

  Two classes have the same text exactly when they have the same name and separator, imports or
  none, and arguments that look alike one by one: the same name, kind and checks
  (`classText_eq_iff`).  Nothing else reaches the text, and none of this is lost in it.

  The text gives back its lines, since none of them holds a line feed.  They are then read section
  by section.  The fields end at the table of handlers, and each of them tells a name and a kind;
  every section that only depends on names and kinds is thereby known and can be cut off.  The
  dispatcher tells the separator.  The clauses of a validation procedure end at its closing brace,
  and each of them tells its check.
-/
import ArgProcessor.Proofs.ProcessorClass.Nesting
import Mathlib.Data.List.Forall2

namespace ArgProcessor

open Code

/-! ### Arguments that look alike -/

/-- Two arguments look alike in a class. -/
structure Argument.LooksLike (a b : Argument) : Prop where
  name : a.name = b.name
  kind : a.kind = b.kind
  mandatory : a.mandatory = b.mandatory
  existing : a.existing = b.existing
  readable : a.readable = b.readable
  writable : a.writable = b.writable

/-- What the field of an argument tells. -/
def Argument.signature (a : Argument) : String × Kind := (a.name, a.kind)

theorem checks_eq_iff {a b : Argument} : a.checks = b.checks ↔ a.wants = b.wants := by
  constructor
  · intro h
    funext c
    rw [Bool.eq_iff_iff, ← Argument.mem_checks, ← Argument.mem_checks, h]
  · intro h
    rw [Argument.checks, Argument.checks, h]

theorem looksLike_iff {a b : Argument} :
    a.LooksLike b ↔ a.signature = b.signature ∧ a.checks = b.checks := by
  rw [checks_eq_iff, Argument.signature, Argument.signature, Prod.mk.injEq]
  constructor
  · intro h
    refine ⟨⟨h.name, h.kind⟩, ?_⟩
    funext c
    cases c with
    | mandatory => exact h.mandatory
    | existing => exact h.existing
    | readAccess => exact h.readable
    | writeAccess => exact h.writable
  · rintro ⟨⟨hname, hkind⟩, hwants⟩
    exact ⟨hname, hkind, congrFun hwants .mandatory, congrFun hwants .existing,
      congrFun hwants .readAccess, congrFun hwants .writeAccess⟩

theorem forall₂_looksLike_iff {l m : List Argument} :
    List.Forall₂ Argument.LooksLike l m ↔
      l.map Argument.signature = m.map Argument.signature ∧
        l.map Argument.checks = m.map Argument.checks := by
  induction l generalizing m with
  | nil => cases m <;> simp
  | cons a l ih =>
    cases m with
    | nil => simp
    | cons b m =>
      simp only [List.forall₂_cons, List.map_cons, List.cons.injEq, looksLike_iff, ih]
      exact and_and_and_comm

/-! ### Fragments that tell the signature only -/

section Fragments

variable {a b : Argument} (h : a.signature = b.signature)
include h

theorem handler_eq_of_signature : a.member.handler = b.member.handler := by
  obtain ⟨hname, hkind⟩ := Prod.mk.inj h
  simp only [Member.handler, Member.conversion, Argument.key, Argument.member_argument,
    Argument.member_suffix, hname, hkind]

theorem setter_eq_of_signature : a.member.setter = b.member.setter := by
  obtain ⟨hname, hkind⟩ := Prod.mk.inj h
  simp only [Member.setter, Member.typeName, Member.name, Argument.member_argument,
    Argument.member_suffix, hname, hkind]

theorem getter_eq_of_signature : a.member.getter = b.member.getter := by
  obtain ⟨hname, hkind⟩ := Prod.mk.inj h
  simp only [Member.getter, Member.typeName, Member.name, Argument.member_argument,
    Argument.member_suffix, hname, hkind]

theorem field_eq_of_signature : a.member.field = b.member.field := by
  obtain ⟨hname, hkind⟩ := Prod.mk.inj h
  simp only [Member.field, Member.typeName, Member.name, Argument.member_argument, hname, hkind]

theorem validator_eq_of_signature (hchecks : a.checks = b.checks) :
    a.member.validator = b.member.validator := by
  obtain ⟨hname, -⟩ := Prod.mk.inj h
  simp only [Member.validator, Argument.validationBody, Argument.member_argument,
    Argument.member_suffix, hname, hchecks]

end Fragments

theorem map_eq_of_map_eq {α β γ : Type} {f : α → β} {g : α → γ}
    (hf : ∀ a b, g a = g b → f a = f b) {l m : List α} (h : l.map g = m.map g) :
    l.map f = m.map f := by
  induction l generalizing m with
  | nil => rw [List.map_eq_nil_iff.1 h.symm]
  | cons a l ih =>
    cases m with
    | nil => simp at h
    | cons b m =>
      obtain ⟨hab, hrest⟩ := List.cons.inj h
      rw [List.map_cons, List.map_cons, hf a b hab, ih hrest]

theorem flatMap_eq_of_map_eq {α β γ : Type} {f : α → List β} {g : α → γ}
    (hf : ∀ a b, g a = g b → f a = f b) {l m : List α} (h : l.map g = m.map g) :
    l.flatMap f = m.flatMap f := by
  rw [List.flatMap_def, List.flatMap_def, map_eq_of_map_eq hf h]

/-! ### Reading up to a line that ends a section -/

theorem flatMap_append_cons_inj {α β γ : Type} {f : α → List β} {g : α → γ} {stop : β}
    (hhead : ∀ a, ∃ b bs, f a = b :: bs ∧ b ≠ stop)
    (hinj : ∀ a b r s, f a ++ r = f b ++ s → g a = g b ∧ r = s) {l m : List α} {r s : List β}
    (h : l.flatMap f ++ stop :: r = m.flatMap f ++ stop :: s) : l.map g = m.map g ∧ r = s := by
  induction l generalizing m with
  | nil =>
    cases m with
    | nil => exact ⟨rfl, (List.cons.inj h).2⟩
    | cons a m =>
      obtain ⟨b, bs, hb, hne⟩ := hhead a
      rw [List.flatMap_nil, List.flatMap_cons, hb] at h
      exact absurd (List.cons.inj h).1.symm hne
  | cons a l ih =>
    cases m with
    | nil =>
      obtain ⟨b, bs, hb, hne⟩ := hhead a
      rw [List.flatMap_nil, List.flatMap_cons, hb] at h
      exact absurd (List.cons.inj h).1 hne
    | cons b m =>
      rw [List.flatMap_cons, List.flatMap_cons, List.append_assoc, List.append_assoc] at h
      obtain ⟨hab, hrest⟩ := hinj _ _ _ _ h
      obtain ⟨hmap, hrs⟩ := ih hrest
      exact ⟨by rw [List.map_cons, List.map_cons, hab, hmap], hrs⟩

theorem indented_inj {depth : Nat} {s t : String} (h : indented depth s = indented depth t) :
    s = t :=
  (String.append_right_inj _).1 h

theorem indented_around_inj {depth : Nat} {left right s t : String}
    (h : indented depth (left ++ s ++ right) = indented depth (left ++ t ++ right)) : s = t :=
  (String.append_right_inj _).1 ((String.append_left_inj _).1 (indented_inj h))

/-! ### Fields -/

theorem signature_eq_of_field {a b : Argument}
    (h : "private " ++ a.kind.typeName ++ " " ++ a.name ++ ";" =
      "private " ++ b.kind.typeName ++ " " ++ b.name ++ ";") : a.signature = b.signature := by
  have hchars := congrArg String.toList h
  rw [Argument.signature, Argument.signature]
  generalize a.kind = k at hchars
  generalize b.kind = k' at hchars
  -- the names of two kinds differ in their first letter
  cases k <;> cases k' <;> simp [Kind.typeName, String.toList_inj] at hchars ⊢ <;> exact hchars

theorem field_ne_handlerTable (k : Kind) (name : String) :
    "private " ++ k.typeName ++ " " ++ name ++ ";" ≠
      "private final Map<String, Consumer<String>> handlers = new LinkedHashMap<>();" := by
  intro h
  have hchars := congrArg String.toList h
  cases k <;> simp [Kind.typeName] at hchars

theorem signatures_of_fields {l m : List Argument} {r s : List String}
    (h : linesAll 1 (l.map fun a => a.member.field) ++ linesAll 1 [ClassOptions.handlerTable] ++ r =
      linesAll 1 (m.map fun a => a.member.field) ++ linesAll 1 [ClassOptions.handlerTable] ++ s) :
    l.map Argument.signature = m.map Argument.signature ∧ r = s := by
  simp only [linesAll_eq_flatMap, List.flatMap_map, List.flatMap_singleton,
    ClassOptions.handlerTable, lines_line, List.append_assoc, List.singleton_append] at h
  refine flatMap_append_cons_inj ?_ ?_ h
  · intro a
    refine ⟨_, [], by rw [Member.field, lines_line], fun he => ?_⟩
    exact field_ne_handlerTable _ _ (indented_inj he)
  · intro a b r s hab
    rw [Member.field, Member.field, lines_line, lines_line, List.singleton_append,
      List.singleton_append] at hab
    obtain ⟨hfield, hrest⟩ := List.cons.inj hab
    exact ⟨signature_eq_of_field (indented_inj hfield), hrest⟩

/-! ### Validation procedures -/

theorem printed_injective {name : String} {c d : Check}
    (hcondition : c.condition = d.condition) (hprinted : c.printed name = d.printed name) :
    c = d := by
  -- only the mandatory check has its condition; the others call methods that end differently
  have hchars := congrArg (fun t => t.toList.reverse) hprinted
  cases c <;> cases d <;> simp [Check.condition, Check.printed] at hcondition hchars ⊢

theorem clause_lines_inj {name : String} {c d : Check} {r s : List String}
    (h : (c.clause name).lines 2 ++ r = (d.clause name).lines 2 ++ s) : c = d ∧ r = s := by
  simp only [Check.clause, lines_block, linesAll_cons, linesAll_nil, lines_line,
    List.append_nil, List.cons_append, List.nil_append,
    List.cons.injEq, true_and] at h
  obtain ⟨hheader, hbody, hrest⟩ := h
  have hcondition := indented_around_inj hheader
  have hprinted := indented_around_inj hbody
  exact ⟨printed_injective hcondition hprinted, hrest⟩

theorem clause_lines_cons (name : String) (c : Check) :
    ∃ l ls, (c.clause name).lines 2 = l :: ls ∧ l ≠ indented 1 "\x7d" := by
  refine ⟨_, _, by rw [Check.clause, lines_block], fun h => ?_⟩
  have hchars := congrArg String.toList h
  simp [toList_indented, List.replicate] at hchars

theorem lines_validator (a : Argument) :
    a.member.validator.lines 1 =
      indented 1 ("private void validate" ++ suffixOf a.name ++ "() \x7b") ::
        indented 2 ("String value = Objects.toString(get" ++ suffixOf a.name ++ "(), \"\");") ::
          (a.checks.flatMap (fun c => (c.clause a.name).lines 2) ++ [indented 1 "\x7d"]) := by
  rw [Member.validator, lines_block, Argument.validationBody, linesAll_cons, lines_line,
    linesAll_eq_flatMap, List.flatMap_map]
  rfl

theorem checks_of_validator {a b : Argument} {r s : List String} (hname : a.name = b.name)
    (h : a.member.validator.lines 1 ++ r = b.member.validator.lines 1 ++ s) :
    a.checks = b.checks ∧ r = s := by
  rw [lines_validator, lines_validator, hname] at h
  simp only [List.cons_append, List.append_assoc, List.nil_append, List.cons.injEq,
    true_and] at h
  have hread := flatMap_append_cons_inj (g := id) (clause_lines_cons b.name)
    (fun _ _ _ _ hcd => clause_lines_inj hcd) h
  rwa [List.map_id, List.map_id] at hread

theorem checks_of_validators {l m : List Argument} (hnames : l.map (·.name) = m.map (·.name))
    (h : linesAll 1 ((l.map fun a => a.member.validator).intersperse .blank) =
      linesAll 1 ((m.map fun a => a.member.validator).intersperse .blank)) :
    l.map Argument.checks = m.map Argument.checks := by
  induction l generalizing m with
  | nil => rw [List.map_eq_nil_iff.1 hnames.symm]
  | cons a l ih =>
    cases m with
    | nil => simp at hnames
    | cons b m =>
      obtain ⟨hname, hrest⟩ := List.cons.inj hnames
      cases l with
      | nil =>
        obtain rfl := List.map_eq_nil_iff.1 hrest.symm
        have hab := (checks_of_validator hname h).1
        rw [List.map_cons, List.map_cons, hab]
      | cons a' l =>
        cases m with
        | nil => simp at hrest
        | cons b' m =>
          simp only [List.map_cons, List.intersperse_cons_cons, linesAll_cons, lines_blank] at h
          obtain ⟨hab, htail⟩ := checks_of_validator hname h
          exact congrArg₂ List.cons hab (ih hrest (List.cons.inj htail).2)

/-! ### The whole class -/

namespace ClassOptions

/-- The part of the body between the table of handlers and the dispatcher. -/
def accessors (o : ClassOptions) (ms : List Member) : List Code :=
  [.blank, o.constructor ms, .blank] ++ ms.flatMap (fun m => [m.setter, .blank]) ++
    ms.flatMap (fun m => [m.getter, .blank])

theorem classBody_eq (o : ClassOptions) (l : List Argument) :
    o.classBody (l.map Argument.member) =
      [.blank, o.entryPoint, .blank] ++ ((l.map fun a => a.member.field) ++ [handlerTable] ++
        (o.accessors (l.map Argument.member) ++ (o.dispatcher :: .blank ::
          (l.map fun a => a.member.validator).intersperse .blank))) := by
  simp [classBody, accessors, Function.comp_def]

theorem entryPoint_eq {o o' : ClassOptions} (hclass : o.className = o'.className) :
    o.entryPoint = o'.entryPoint := by
  rw [entryPoint, entryPoint, hclass]

theorem accessors_eq {o o' : ClassOptions} {l m : List Argument}
    (hclass : o.className = o'.className)
    (h : l.map Argument.signature = m.map Argument.signature) :
    o.accessors (l.map Argument.member) = o'.accessors (m.map Argument.member) := by
  have hhandlers := map_eq_of_map_eq (fun _ _ => handler_eq_of_signature) h
  have hsetters : l.flatMap (fun a => [a.member.setter, .blank]) =
      m.flatMap fun a => [a.member.setter, .blank] :=
    flatMap_eq_of_map_eq (fun _ _ hs => by rw [setter_eq_of_signature hs]) h
  have hgetters : l.flatMap (fun a => [a.member.getter, .blank]) =
      m.flatMap fun a => [a.member.getter, .blank] :=
    flatMap_eq_of_map_eq (fun _ _ hs => by rw [getter_eq_of_signature hs]) h
  simp only [accessors, constructor, List.map_map, List.flatMap_map, Function.comp_def, hclass,
    hhandlers, hsetters, hgetters]

theorem lines_classCode (o : ClassOptions) (ms : List Member) :
    linesAll 0 (o.classCode ms) =
      linesAll 0 o.preamble ++ indented 0 ("public class " ++ o.className ++ " \x7b") ::
        (linesAll 1 (o.classBody ms) ++ [indented 0 "\x7d"]) := by
  rw [classCode, linesAll_append, linesAll_cons, linesAll_nil, lines_block, List.append_nil]

theorem language_of_lines {o o' : ClassOptions} {r s : List String}
    (h : linesAll 0 o.preamble ++ indented 0 ("public class " ++ o.className ++ " \x7b") :: r =
      linesAll 0 o'.preamble ++ indented 0 ("public class " ++ o'.className ++ " \x7b") :: s) :
    isKnownLanguage o.language = isKnownLanguage o'.language ∧
      o.className = o'.className ∧ r = s := by
  -- with imports the first line starts with another letter than without
  have himport : ∀ c : String, indented 0 "import java.io.File;" ≠
      indented 0 ("public class " ++ c ++ " \x7b") := by
    intro c he
    have hchars := congrArg String.toList (indented_inj he)
    simp at hchars
  unfold preamble importsFor at h
  cases hk : isKnownLanguage o.language <;> cases hk' : isKnownLanguage o'.language <;>
    simp only [hk, hk', if_true, Bool.false_eq_true, if_false, linesAll_nil, linesAll_append,
      List.nil_append, List.append_assoc] at h
  · obtain ⟨hheader, hrest⟩ := List.cons.inj h
    exact ⟨rfl, indented_around_inj hheader, hrest⟩
  · simp only [classImports, List.map_cons, linesAll_cons, lines_line,
      List.cons_append] at h
    exact absurd (List.cons.inj h).1.symm (himport _)
  · simp only [classImports, List.map_cons, linesAll_cons, lines_line,
      List.cons_append] at h
    exact absurd (List.cons.inj h).1 (himport _)
  · have hrest := List.append_cancel_left (List.append_cancel_left h)
    obtain ⟨hheader, hrest⟩ := List.cons.inj hrest
    exact ⟨rfl, indented_around_inj hheader, hrest⟩

theorem separator_of_dispatcher {o o' : ClassOptions} {r s : List String}
    (h : o.dispatcher.lines 1 ++ r = o'.dispatcher.lines 1 ++ s) :
    o.separator = o'.separator ∧ r = s := by
  simp only [dispatcher, lines_block, linesAll_cons, linesAll_nil, lines_line, List.append_nil,
    List.cons_append, List.nil_append, List.cons.injEq, true_and] at h
  obtain ⟨hsplit, hrest⟩ := h
  exact ⟨stringLiteral_injective (indented_around_inj hsplit), hrest⟩

end ClassOptions

/-- The lines of a class, read section by section. -/
theorem contents_of_lines {o o' : ClassOptions} {l m : List Argument}
    (h : linesAll 0 (o.classCode (l.map Argument.member)) =
      linesAll 0 (o'.classCode (m.map Argument.member))) :
    o.className = o'.className ∧ o.separator = o'.separator ∧
      isKnownLanguage o.language = isKnownLanguage o'.language ∧
        List.Forall₂ Argument.LooksLike l m := by
  rw [ClassOptions.lines_classCode, ClassOptions.lines_classCode] at h
  obtain ⟨hlanguage, hclass, hbody⟩ := ClassOptions.language_of_lines h
  have hbody := List.append_cancel_right hbody
  rw [ClassOptions.classBody_eq, ClassOptions.classBody_eq, ClassOptions.entryPoint_eq hclass]
    at hbody
  simp only [linesAll_append] at hbody
  have hfields := List.append_cancel_left hbody
  obtain ⟨hsignatures, hrest⟩ := signatures_of_fields hfields
  rw [ClassOptions.accessors_eq hclass hsignatures] at hrest
  have hdispatcher := List.append_cancel_left hrest
  simp only [linesAll_cons] at hdispatcher
  obtain ⟨hseparator, hvalidators⟩ := ClassOptions.separator_of_dispatcher hdispatcher
  have hnames : l.map (·.name) = m.map (·.name) :=
    map_eq_of_map_eq (fun _ _ hs => (Prod.mk.inj hs).1) hsignatures
  have hchecks := checks_of_validators hnames (List.append_cancel_left hvalidators)
  exact ⟨hclass, hseparator, hlanguage, forall₂_looksLike_iff.2 ⟨hsignatures, hchecks⟩⟩

theorem classCode_eq_of_contents {o o' : ClassOptions} {l m : List Argument}
    (hclass : o.className = o'.className) (hseparator : o.separator = o'.separator)
    (hlanguage : isKnownLanguage o.language = isKnownLanguage o'.language)
    (h : List.Forall₂ Argument.LooksLike l m) :
    o.classCode (l.map Argument.member) = o'.classCode (m.map Argument.member) := by
  obtain ⟨hsignatures, -⟩ := forall₂_looksLike_iff.1 h
  have hpreamble : o.preamble = o'.preamble := by
    rw [ClassOptions.preamble, ClassOptions.preamble, importsFor, importsFor, hlanguage]
  have hfields := map_eq_of_map_eq (fun _ _ => field_eq_of_signature) hsignatures
  have hvalidators : (l.map fun a => a.member.validator) = m.map fun a => a.member.validator := by
    induction h with
    | nil => rfl
    | cons hab _ ih =>
      obtain ⟨hsignature, hchecks⟩ := looksLike_iff.1 hab
      obtain ⟨-, hrest⟩ := List.cons.inj hsignatures
      rw [List.map_cons, List.map_cons, validator_eq_of_signature hsignature hchecks,
        ih hrest (List.cons.inj hfields).2]
  have hdispatcher : o.dispatcher = o'.dispatcher := by
    rw [ClassOptions.dispatcher, ClassOptions.dispatcher, hseparator]
  rw [ClassOptions.classCode, ClassOptions.classCode, ClassOptions.classBody_eq,
    ClassOptions.classBody_eq, hpreamble, hclass, ClassOptions.entryPoint_eq hclass, hfields,
    ClassOptions.accessors_eq hclass hsignatures, hdispatcher, hvalidators]

/-- **Two classes have the same text exactly when they agree on all that a class shows.** -/
theorem classText_eq_iff {s s' : ArgumentList} {o o' : ClassOptions} {text text' : String}
    (h : s.classText o = .ok text) (h' : s'.classText o' = .ok text') :
    text = text' ↔
      o.className = o'.className ∧ o.separator = o'.separator ∧
        isKnownLanguage o.language = isKnownLanguage o'.language ∧
          List.Forall₂ Argument.LooksLike s.arguments s'.arguments := by
  obtain ⟨hclass, hnames, rfl⟩ := ArgumentList.classText_eq_ok_iff.1 h
  obtain ⟨hclass', hnames', rfl⟩ := ArgumentList.classText_eq_ok_iff.1 h'
  constructor
  · intro heq
    have hlaid := laid_of_wellNested (classCode_wellNested (o := o) hclass hnames)
    have hlaid' := laid_of_wellNested (classCode_wellNested (o := o') hclass' hnames')
    exact contents_of_lines (unlines_injective hlaid.newline_not_mem hlaid'.newline_not_mem heq)
  · rintro ⟨hname, hseparator, hlanguage, hargs⟩
    rw [classCode_eq_of_contents hname hseparator hlanguage hargs]

/-- The spelling of a type and of the language does not reach the text, the separator does. -/
theorem classText_eq_iff_respelled :
    ∃ text text' text'',
      (ArgumentList.ofArguments [⟨"in", " FILE", true, false, true, false⟩]).classText {} =
        .ok text ∧
      (ArgumentList.ofArguments [⟨"in", "file", true, false, true, false⟩]).classText
        { language := "Java " } = .ok text' ∧
      (ArgumentList.ofArguments [⟨"in", "file", true, false, true, false⟩]).classText
        { separator := "" } = .ok text'' ∧
      text = text' ∧ text ≠ text'' := by
  have h := ArgumentList.classText_eq_ok_iff (o := {})
    (s := .ofArguments [⟨"in", " FILE", true, false, true, false⟩]) |>.2
    ⟨by decide, by decide, rfl⟩
  have h' := ArgumentList.classText_eq_ok_iff (o := { language := "Java " })
    (s := .ofArguments [⟨"in", "file", true, false, true, false⟩]) |>.2 ⟨by decide, by decide, rfl⟩
  have h'' := ArgumentList.classText_eq_ok_iff (o := { separator := "" })
    (s := .ofArguments [⟨"in", "file", true, false, true, false⟩]) |>.2 ⟨by decide, by decide, rfl⟩
  refine ⟨_, _, _, h, h', h'', ?_, fun heq => ?_⟩
  · refine (classText_eq_iff h h').2 ⟨rfl, rfl, by decide, .cons ?_ .nil⟩
    exact ⟨rfl, by decide, rfl, rfl, rfl, rfl⟩
  · exact absurd ((classText_eq_iff h h'').1 heq).2.1 (by decide)

end ArgProcessor
