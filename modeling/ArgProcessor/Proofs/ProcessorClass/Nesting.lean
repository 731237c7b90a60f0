/-
  ArgProcessor/Proofs/ProcessorClass/Nesting.lean
  ===============================================
  **The code of a class is well nested**, whatever its separator.

  What a class takes from outside stands in its lines in one of two forms.  The class name, the
  names of the arguments and their suffixes are words, and a word opens and closes nothing.  The
  separator, the keys and the printed texts are string literals, which are read as a whole.  The
  rest of each line is fixed, so each fragment of the class is well nested
  (`classCode_wellNested`).
-/
import ArgProcessor.Proofs.Code.Layout
import ArgProcessor.Proofs.Code.Lines
import ArgProcessor.Proofs.ProcessorClass.Members

namespace ArgProcessor

/-! ### First characters -/

theorem StartsPlainly.fixed {c : Char} {cs : List Char} (hblank : c ≠ ' ') (hbrace : c ≠ '\x7d') :
    StartsPlainly (String.ofList (c :: cs)) := by
  refine ⟨c, ?_, hblank, hbrace⟩
  rw [String.toList_ofList]
  rfl

theorem StartsPlainly.append {s : String} (h : StartsPlainly s) (t : String) :
    StartsPlainly (s ++ t) := by
  obtain ⟨c, hhead, hc⟩ := h
  refine ⟨c, ?_, hc⟩
  rw [String.toList_append, List.head?_append, hhead]
  rfl

theorem startsPlainly_of_isIdentifier {name : String} (h : isIdentifier name = true) :
    StartsPlainly name := by
  cases hl : name.toList with
  | nil =>
    rw [String.toList_eq_nil_iff.1 hl, isIdentifier_empty] at h
    contradiction
  | cons c cs =>
    have hword : Unicode.isWordCharacter c = true :=
      isWordCharacter_of_isIdentifier h (hl ▸ List.mem_cons_self)
    refine ⟨c, by rw [hl]; rfl, ?_, ?_⟩
    · rintro rfl
      contradiction
    · rintro rfl
      contradiction

/-! ### Names and types -/

theorem ne_empty_of_isIdentifier {name : String} (h : isIdentifier name = true) : name ≠ "" := by
  rintro rfl
  rw [isIdentifier_empty] at h
  contradiction

theorem isWordCharacter_of_suffixOf {name : String} (h : isIdentifier name = true) {c : Char}
    (hc : c ∈ (suffixOf name).toList) : Unicode.isWordCharacter c = true :=
  isWordCharacter_of_accessorSuffix h (accessorSuffix_eq_ok h) hc

theorem leads_name {name : String} (h : isIdentifier name = true) (a : List Char) :
    Leads name a a :=
  .word (fun _ hc => isWordCharacter_of_isIdentifier h hc) a

theorem leads_suffix {name : String} (h : isIdentifier name = true) (a : List Char) :
    Leads (suffixOf name) a a :=
  .word (fun _ hc => isWordCharacter_of_suffixOf h hc) a

theorem leads_typeName (k : Kind) (a : List Char) : Leads k.typeName a a := by
  cases k <;> exact .fixed (by decide) fun _ => rfl

theorem leads_conversion (k : Kind) (a : List Char) : Leads (k.conversion "value") a a := by
  have hvalue : ∀ b, Leads "value" b b := fun _ => .fixed (by decide) fun _ => rfl
  have hend : Leads ")" ('(' :: a) a := .fixed (by decide) fun _ => rfl
  cases k with
  | string => exact hvalue a
  | file =>
    have hnew : Leads "new File(" a ('(' :: a) := .fixed (by decide) fun _ => rfl
    exact (hnew.append (hvalue _)).append hend
  | path =>
    have hget : Leads "Paths.get(" a ('(' :: a) := .fixed (by decide) fun _ => rfl
    exact (hget.append (hvalue _)).append hend
  | flag =>
    have hempty : Leads ".isEmpty() ? null : Boolean.valueOf(" a ('(' :: a) :=
      .fixed (by decide) fun _ => rfl
    exact (((hvalue a).append hempty).append (hvalue _)).append hend
  | other => exact hvalue a

theorem Code.WellNested.braces {header : String} {body : List Code}
    (hreads : Leads header [] ['\x7b']) (hstarts : StartsPlainly header)
    (hbody : ∀ c ∈ body, c.WellNested) : (Code.block header "\x7d" body).WellNested :=
  .block hreads hstarts rfl (.fixed (by decide) fun _ => rfl) rfl hbody

/-! ### Fragments of one argument -/

section Fragments

variable {a : Argument} (h : isIdentifier a.name = true)
include h

theorem field_wellNested : a.member.field.WellNested := by
  have hopen : Leads "private " [] [] := .fixed (by decide) fun _ => rfl
  have hblank : Leads " " [] [] := .fixed (by decide) fun _ => rfl
  have hend : Leads ";" [] [] := .fixed (by decide) fun _ => rfl
  exact .line
    ((((hopen.append (leads_typeName _ _)).append hblank).append (leads_name h _)).append hend)
    ⟨'p', by simp, by decide, by decide⟩

/-- The close of a handler ends the lambda and then the call. -/
theorem handler_wellNested : a.member.handler.WellNested := by
  have hput : Leads "handlers.put(" [] ['('] := .fixed (by decide) fun _ => rfl
  have hlambda : Leads ", value -> \x7b" ['('] ['\x7b', '('] := .fixed (by decide) fun _ => rfl
  have hclose : Leads "\x7d);" ['\x7b', '('] [] := .fixed (by decide) fun _ => rfl
  refine .block ((hput.append (.stringLiteral _ _)).append hlambda)
    ⟨'h', by simp, by decide, by decide⟩ rfl hclose rfl ?_
  refine List.forall_mem_cons.2 ⟨?_, List.forall_mem_singleton.2 ?_⟩
  · have hset : Leads "set" [] [] := .fixed (by decide) fun _ => rfl
    have hcall : Leads "(" [] ['('] := .fixed (by decide) fun _ => rfl
    have hend : Leads ");" ['('] [] := .fixed (by decide) fun _ => rfl
    exact .line
      ((((hset.append (leads_suffix h _)).append hcall).append (leads_conversion _ _)).append hend)
      ⟨'s', by simp, by decide, by decide⟩
  · have hvalidate : Leads "validate" [] [] := .fixed (by decide) fun _ => rfl
    have hend : Leads "();" [] [] := .fixed (by decide) fun _ => rfl
    exact .line ((hvalidate.append (leads_suffix h _)).append hend)
      ⟨'v', by simp, by decide, by decide⟩

theorem setter_wellNested : a.member.setter.WellNested := by
  have hset : Leads "public void set" [] [] := .fixed (by decide) fun _ => rfl
  have hopen : Leads "(" [] ['('] := .fixed (by decide) fun _ => rfl
  have hblank : Leads " " ['('] ['('] := .fixed (by decide) fun _ => rfl
  have hbrace : Leads ") \x7b" ['('] ['\x7b'] := .fixed (by decide) fun _ => rfl
  refine .braces
    ((((((hset.append (leads_suffix h _)).append hopen).append (leads_typeName _ _)).append
      hblank).append (leads_name h _)).append hbrace)
    ⟨'p', by simp, by decide, by decide⟩ (List.forall_mem_singleton.2 ?_)
  have hthis : Leads "this." [] [] := .fixed (by decide) fun _ => rfl
  have hequals : Leads " = " [] [] := .fixed (by decide) fun _ => rfl
  have hend : Leads ";" [] [] := .fixed (by decide) fun _ => rfl
  exact .line
    ((((hthis.append (leads_name h _)).append hequals).append (leads_name h _)).append hend)
    ⟨'t', by simp, by decide, by decide⟩

theorem getter_wellNested : a.member.getter.WellNested := by
  have hpublic : Leads "public " [] [] := .fixed (by decide) fun _ => rfl
  have hget : Leads " get" [] [] := .fixed (by decide) fun _ => rfl
  have hbrace : Leads "() \x7b" [] ['\x7b'] := .fixed (by decide) fun _ => rfl
  refine .braces
    ((((hpublic.append (leads_typeName _ _)).append hget).append (leads_suffix h _)).append hbrace)
    ⟨'p', by simp, by decide, by decide⟩ (List.forall_mem_singleton.2 ?_)
  have hreturn : Leads "return " [] [] := .fixed (by decide) fun _ => rfl
  have hend : Leads ";" [] [] := .fixed (by decide) fun _ => rfl
  exact .line ((hreturn.append (leads_name h _)).append hend)
    ⟨'r', by simp, by decide, by decide⟩

omit h in
theorem clause_wellNested (name : String) (c : Check) : (c.clause name).WellNested := by
  have hif : Leads "if (" [] ['('] := .fixed (by decide) fun _ => rfl
  have hcondition : Leads c.condition ['('] ['('] := by
    cases c <;> exact .fixed (by decide) fun _ => rfl
  have hbrace : Leads ") \x7b" ['('] ['\x7b'] := .fixed (by decide) fun _ => rfl
  refine .braces ((hif.append hcondition).append hbrace)
    ⟨'i', by simp, by decide, by decide⟩ (List.forall_mem_singleton.2 ?_)
  have hprint : Leads "System.out.println(" [] ['('] := .fixed (by decide) fun _ => rfl
  have hprinted : Leads (c.printed name) ['('] ['('] := by
    cases c with
    | mandatory => exact .stringLiteral _ _
    | existing => exact (Leads.stringLiteral _ _).append (.fixed (by decide) fun _ => rfl)
    | readAccess => exact (Leads.stringLiteral _ _).append (.fixed (by decide) fun _ => rfl)
    | writeAccess => exact (Leads.stringLiteral _ _).append (.fixed (by decide) fun _ => rfl)
  have hend : Leads ");" ['('] [] := .fixed (by decide) fun _ => rfl
  exact .line ((hprint.append hprinted).append hend) ⟨'S', by simp, by decide, by decide⟩

theorem validator_wellNested : a.member.validator.WellNested := by
  have hvalidate : Leads "private void validate" [] [] := .fixed (by decide) fun _ => rfl
  have hbrace : Leads "() \x7b" [] ['\x7b'] := .fixed (by decide) fun _ => rfl
  refine .braces ((hvalidate.append (leads_suffix h _)).append hbrace)
    ⟨'p', by simp, by decide, by decide⟩ ?_
  refine List.forall_mem_cons.2 ⟨?_, ?_⟩
  · have hvalue : Leads "String value = Objects.toString(get" [] ['('] :=
      .fixed (by decide) fun _ => rfl
    have hend : Leads "(), \"\");" ['('] [] := .fixed (by decide) fun _ => rfl
    exact .line ((hvalue.append (leads_suffix h _)).append hend)
      ⟨'S', by simp, by decide, by decide⟩
  · intro c hc
    obtain ⟨check, -, rfl⟩ := List.mem_map.1 hc
    exact clause_wellNested _ check

end Fragments

/-! ### The whole class -/

section Class

variable {o : ClassOptions}

theorem preamble_wellNested : ∀ c ∈ o.preamble, c.WellNested := by
  have himports : ∀ text ∈ classImports, (Code.line text).WellNested := by
    intro text htext
    simp only [classImports, List.mem_cons, List.not_mem_nil, or_false] at htext
    rcases htext with rfl | rfl | rfl | rfl | rfl | rfl | rfl | rfl <;>
      exact .line (.fixed (by decide) fun _ => rfl) (.fixed (by decide) (by decide))
  unfold ClassOptions.preamble importsFor
  split
  · next imports h =>
    rw [Option.ite_none_right_eq_some, Option.some.injEq] at h
    obtain ⟨-, rfl⟩ := h
    rw [List.forall_mem_append, List.forall_mem_map]
    exact ⟨himports, List.forall_mem_singleton.2 .blank⟩
  · simp

theorem handlerTable_wellNested : ClassOptions.handlerTable.WellNested :=
  .line (.fixed (by decide) fun _ => rfl) (.fixed (by decide) (by decide))

/-- The separator stands in the dispatcher only, and there as a literal. -/
theorem dispatcher_wellNested : o.dispatcher.WellNested := by
  have hcontinue : (Code.line "continue;").WellNested :=
    .line (.fixed (by decide) fun _ => rfl) (.fixed (by decide) (by decide))
  refine .braces (.fixed (by decide) fun _ => rfl) (.fixed (by decide) (by decide))
    (List.forall_mem_singleton.2 ?_)
  refine .braces (.fixed (by decide) fun _ => rfl) (.fixed (by decide) (by decide)) ?_
  simp only [List.forall_mem_cons]
  refine ⟨?_, ?_, ?_, ?_, ?_, by simp⟩
  · have hsplit : Leads "String[] parts = arg.split(Pattern.quote(" [] ['(', '('] :=
      .fixed (by decide) fun _ => rfl
    have hend : Leads "), 2);" ['(', '('] [] := .fixed (by decide) fun _ => rfl
    exact .line ((hsplit.append (.stringLiteral _ _)).append hend)
      ⟨'S', by simp, by decide, by decide⟩
  · exact .braces (.fixed (by decide) fun _ => rfl) (.fixed (by decide) (by decide))
      (List.forall_mem_singleton.2 hcontinue)
  · exact .line (.fixed (by decide) fun _ => rfl) (.fixed (by decide) (by decide))
  · exact .braces (.fixed (by decide) fun _ => rfl) (.fixed (by decide) (by decide))
      (List.forall_mem_singleton.2 hcontinue)
  · exact .line (.fixed (by decide) fun _ => rfl) (.fixed (by decide) (by decide))

variable (hclass : isIdentifier o.className = true)
include hclass

theorem entryPoint_wellNested : o.entryPoint.WellNested := by
  refine .braces (.fixed (by decide) fun _ => rfl) (.fixed (by decide) (by decide))
    (List.forall_mem_cons.2 ⟨?_, List.forall_mem_singleton.2 ?_⟩)
  · have hnew : Leads " processor = new " [] [] := .fixed (by decide) fun _ => rfl
    have hend : Leads "();" [] [] := .fixed (by decide) fun _ => rfl
    exact .line ((((leads_name hclass _).append hnew).append (leads_name hclass _)).append hend)
      ((((startsPlainly_of_isIdentifier hclass).append _).append _).append _)
  · exact .line (.fixed (by decide) fun _ => rfl) (.fixed (by decide) (by decide))

variable {args : List Argument} (hnames : ∀ a ∈ args, isIdentifier a.name = true)
include hnames

theorem constructor_wellNested : (o.constructor (args.map Argument.member)).WellNested := by
  have hpublic : Leads "public " [] [] := .fixed (by decide) fun _ => rfl
  have hbrace : Leads "() \x7b" [] ['\x7b'] := .fixed (by decide) fun _ => rfl
  refine .braces ((hpublic.append (leads_name hclass _)).append hbrace)
    ⟨'p', by simp, by decide, by decide⟩ ?_
  simp only [List.forall_mem_map]
  exact fun a ha => handler_wellNested (hnames a ha)

theorem classBody_wellNested :
    ∀ c ∈ o.classBody (args.map Argument.member), c.WellNested := by
  have hvalidators : ∀ c ∈ ((args.map Argument.member).map Member.validator).intersperse .blank,
      c.WellNested := by
    intro c hc
    rcases Code.mem_intersperse hc with rfl | hmem
    · exact .blank
    · rw [List.map_map, List.mem_map] at hmem
      obtain ⟨a, ha, rfl⟩ := hmem
      exact validator_wellNested (hnames a ha)
  simp only [ClassOptions.classBody, List.forall_mem_append, List.forall_mem_cons,
    List.forall_mem_map, List.forall_mem_flatMap]
  refine ⟨⟨⟨⟨⟨⟨?_, ?_⟩, ?_⟩, ?_⟩, ?_⟩, ?_⟩, hvalidators⟩
  · exact ⟨.blank, entryPoint_wellNested hclass, .blank, by simp⟩
  · exact ⟨fun a ha => field_wellNested (hnames a ha), handlerTable_wellNested, .blank, by simp⟩
  · exact ⟨constructor_wellNested hclass hnames, .blank, by simp⟩
  · exact fun a ha => ⟨setter_wellNested (hnames a ha), .blank, by simp⟩
  · exact fun a ha => ⟨getter_wellNested (hnames a ha), .blank, by simp⟩
  · exact ⟨dispatcher_wellNested, .blank, by simp⟩

/-- **The code of a class with usable names is well nested.** -/
theorem classCode_wellNested :
    ∀ c ∈ o.classCode (args.map Argument.member), c.WellNested := by
  have hpublic : Leads "public class " [] [] := .fixed (by decide) fun _ => rfl
  have hbrace : Leads " \x7b" [] ['\x7b'] := .fixed (by decide) fun _ => rfl
  rw [ClassOptions.classCode, List.forall_mem_append, List.forall_mem_singleton]
  exact ⟨preamble_wellNested,
    .braces ((hpublic.append (leads_name hclass _)).append hbrace)
      ⟨'p', by simp, by decide, by decide⟩ (classBody_wellNested hclass hnames)⟩

end Class

end ArgProcessor
