/-
  ArgProcessor/Proofs/ProcessorClass/Declarations.lean
  ====================================================
  **Which members a class declares, and when two of them have the same name.**

  The lines right inside the class are read as declarations (`declaration?`): what is declared is
  the last word before the parameters, the value or the end of the line.  Read in this way, a
  class declares a field for each argument and the table of handlers, a constructor, and the
  methods `main` and `process` beside three methods for each argument
  (`declarations_classCode`).

  Arguments have distinct names, so their fields never clash with each other, and a method of one
  sort never clashes with one of another sort.  Two clashes are left (`declared_names`): an
  argument called `handlers` declares the field of the table a second time, and arguments with
  the same accessor suffix, such as `a` and `A`, declare the same methods.  Neither is refused
  (`declared_twice`), although such a class does not compile.
-/
import ArgProcessor.ArgumentList.Reading
import ArgProcessor.Proofs.Code.SourceLines
import ArgProcessor.Proofs.ProcessorClass.Nesting
import Mathlib.Data.List.Nodup

namespace ArgProcessor

open Code

/-! ### Reading declarations -/

/-- What a line declares. -/
inductive Declaration where
  | field (name : String)
  | constructor (name : String)
  | method (name : String)
deriving DecidableEq, Repr

namespace Declaration

def field? : Declaration → Option String
  | .field name => some name
  | _ => none

def method? : Declaration → Option String
  | .method name => some name
  | _ => none

end Declaration

/-- The parenthesis before parameters, the sign before a value, and the end of a statement. -/
def endsDeclarator (c : Char) : Bool := c == '(' || c == '=' || c == ';'

/-- What a line right inside a class declares.  A constructor has no type between its modifier and
    its name. -/
def declaration? (l : SourceLine) : Option Declaration :=
  if l.indent = 4 then
    let declared := words (l.text.toList.takeWhile (!endsDeclarator ·))
    match declared.getLast?, (l.text.toList.dropWhile (!endsDeclarator ·)).head? with
    | some name, some '(' =>
      some (if declared.length = 2 then .constructor (String.ofList name)
        else .method (String.ofList name))
    | some name, some _ => some (.field (String.ofList name))
    | _, _ => none
  else none

def declarations (text : String) : List Declaration := (sourceLines text).filterMap declaration?

def declaredFields (text : String) : List String := (declarations text).filterMap Declaration.field?

def declaredMethods (text : String) : List String :=
  (declarations text).filterMap Declaration.method?

/-- A line is read at the last word before the first character that ends a declarator. -/
theorem declaration?_eq {text : String} {front name rest : List Char} {stop : Char}
    (htext : text.toList = front ++ ' ' :: (name ++ stop :: rest))
    (hfront : (front.all (!endsDeclarator ·)) = true)
    (hname : ∀ c ∈ name, endsDeclarator c = false) (hblank : ' ' ∉ name) (hne : name ≠ [])
    (hstop : endsDeclarator stop = true) :
    declaration? ⟨4, text⟩ = some (if stop = '(' then
      if (words front).length = 1 then .constructor (String.ofList name)
        else .method (String.ofList name)
      else .field (String.ofList name)) := by
  have hbefore : ∀ c ∈ front ++ ' ' :: name, (!endsDeclarator c) = true := by
    intro c hc
    rcases List.mem_append.1 hc with hc | hc
    · exact List.all_eq_true.1 hfront c hc
    · rcases List.mem_cons.1 hc with rfl | hc
      · rfl
      · rw [hname c hc]
        rfl
  have hsplit : text.toList = (front ++ ' ' :: name) ++ stop :: rest := by simp [htext]
  have htake : text.toList.takeWhile (!endsDeclarator ·) = front ++ ' ' :: name := by
    rw [hsplit, List.takeWhile_append_of_pos hbefore, List.takeWhile_cons_of_neg (by simp [hstop]),
      List.append_nil]
  have hdrop : text.toList.dropWhile (!endsDeclarator ·) = stop :: rest := by
    rw [hsplit, List.dropWhile_append_of_pos hbefore, List.dropWhile_cons_of_neg (by simp [hstop])]
  simp only [declaration?, htake, hdrop, words_append_cons hblank hne, List.getLast?_concat,
    List.head?_cons, List.length_append, List.length_singleton, if_true]
  by_cases hparen : stop = '('
  · subst hparen
    simp
  · rw [if_neg hparen]
    simp

/-- Lines of another depth and blank lines declare nothing. -/
theorem declaration?_of_indent {l : SourceLine} (h : l.indent ≠ 4) : declaration? l = none :=
  if_neg h

theorem declaration?_empty (indent : Nat) : declaration? ⟨indent, ""⟩ = none := by
  by_cases h : indent = 4
  · subst h
    rfl
  · exact declaration?_of_indent h

/-! ### Declarations of the code -/

namespace Code

/-- What a piece of code right inside the class declares. -/
def declarations (c : Code) : List Declaration := (c.sourceLines 1).filterMap declaration?

theorem declarations_line (text : String) :
    (line text).declarations = (declaration? ⟨4, text⟩).toList := by
  rw [declarations, sourceLines_line, Nat.mul_one]
  cases h : declaration? ⟨4, text⟩ <;> simp [h]

theorem declarations_blank : blank.declarations = [] := by
  rw [declarations, sourceLines_blank]
  rfl

/-- The lines inside a block stand too deep to declare anything. -/
theorem declarations_block {header : String} {body : List Code}
    (h : ∀ c ∈ body, c.WellNested) :
    (block header "\x7d" body).declarations = (declaration? ⟨4, header⟩).toList := by
  have hinside : (sourceLinesAll 2 body).filterMap declaration? = [] := by
    rw [List.filterMap_eq_nil_iff]
    intro l hl
    rw [sourceLinesAll_eq_flatMap, List.mem_flatMap] at hl
    obtain ⟨c, hc, hl⟩ := hl
    rcases (h c hc).le_indent hl with htext | hdeep
    · obtain ⟨indent, text⟩ := l
      obtain rfl : text = "" := htext
      exact declaration?_empty indent
    · exact declaration?_of_indent (by omega)
  have hclose : declaration? ⟨4, "\x7d"⟩ = none := rfl
  rw [declarations, sourceLines_block, Nat.mul_one, List.filterMap_cons, List.filterMap_append,
    hinside, List.filterMap_cons_none hclose]
  cases declaration? ⟨4, header⟩ <;> rfl

end Code

open Code

/-! ### Fragments of the class -/

theorem plain_of_word {c : Char} (h : Unicode.isWordCharacter c = true) :
    endsDeclarator c = false ∧ c ≠ ' ' := by
  constructor
  · rw [Bool.eq_false_iff]
    intro hends
    simp only [endsDeclarator, Bool.or_eq_true, beq_iff_eq] at hends
    rcases hends with (rfl | rfl) | rfl <;> contradiction
  · rintro rfl
    contradiction

/-- A line in which a word stands between a blank and the end of the declarator. -/
theorem declaration?_word {text name : String} {front rest : List Char} {stop : Char}
    (htext : text.toList = front ++ ' ' :: (name.toList ++ stop :: rest))
    (hfront : (front.all (!endsDeclarator ·)) = true)
    (hname : ∀ c ∈ name.toList, Unicode.isWordCharacter c = true) (hne : name ≠ "")
    (hstop : endsDeclarator stop = true) :
    declaration? ⟨4, text⟩ = some (if stop = '(' then
      if (words front).length = 1 then .constructor name else .method name
      else .field name) := by
  have hblank : ' ' ∉ name.toList := fun h => (plain_of_word (hname _ h)).2 rfl
  have h := declaration?_eq htext hfront (fun c hc => (plain_of_word (hname c hc)).1) hblank
    (by simpa using hne) hstop
  rwa [String.ofList_toList] at h

section Fragments

variable {a : Argument} (h : isIdentifier a.name = true)
include h

theorem declarations_field : a.member.field.declarations = [.field a.name] := by
  have hfront : ("private ".toList ++ a.kind.typeName.toList).all (!endsDeclarator ·) = true := by
    cases a.kind <;> decide
  have htext : ("private " ++ a.kind.typeName ++ " " ++ a.name ++ ";").toList =
      ("private ".toList ++ a.kind.typeName.toList) ++ ' ' :: (a.name.toList ++ ';' :: []) := by
    simp
  have hread := declaration?_word htext hfront (fun _ => isWordCharacter_of_isIdentifier h)
    (ne_empty_of_isIdentifier h) rfl
  rw [Member.field, declarations_line]
  exact congrArg Option.toList hread

theorem isWordCharacter_accessor {sort : String}
    (hsort : sort.toList.all Unicode.isWordCharacter = true) :
    ∀ c ∈ (sort ++ suffixOf a.name).toList, Unicode.isWordCharacter c = true := by
  intro c hc
  rw [String.toList_append, List.mem_append] at hc
  rcases hc with hc | hc
  · exact List.all_eq_true.1 hsort c hc
  · exact isWordCharacter_of_suffixOf h hc

theorem declarations_setter :
    a.member.setter.declarations = [.method ("set" ++ suffixOf a.name)] := by
  have htext : ("public void set" ++ suffixOf a.name ++ "(" ++ a.kind.typeName ++ " " ++ a.name ++
      ") \x7b").toList = "public void".toList ++ ' ' :: (("set" ++ suffixOf a.name).toList ++
        '(' :: (a.kind.typeName.toList ++ ' ' :: (a.name.toList ++ ") \x7b".toList))) := by
    simp
  have hread := declaration?_word htext (by decide) (isWordCharacter_accessor h (by decide))
    (by simp) rfl
  rw [Member.setter, declarations_block (setter_wellNested h).body]
  exact congrArg Option.toList hread

theorem declarations_getter :
    a.member.getter.declarations = [.method ("get" ++ suffixOf a.name)] := by
  have hfront : ("public ".toList ++ a.kind.typeName.toList).all (!endsDeclarator ·) = true := by
    cases a.kind <;> decide
  have hwords : ¬(words ("public ".toList ++ a.kind.typeName.toList)).length = 1 := by
    cases a.kind <;> decide
  have htext : ("public " ++ a.kind.typeName ++ " get" ++ suffixOf a.name ++ "() \x7b").toList =
      ("public ".toList ++ a.kind.typeName.toList) ++
        ' ' :: (("get" ++ suffixOf a.name).toList ++ '(' :: ") \x7b".toList) := by
    simp
  have hread := declaration?_word htext hfront (isWordCharacter_accessor h (by decide))
    (by simp) rfl
  rw [if_pos rfl, if_neg hwords] at hread
  rw [Member.getter, declarations_block (getter_wellNested h).body]
  exact congrArg Option.toList hread

theorem declarations_validator :
    a.member.validator.declarations = [.method ("validate" ++ suffixOf a.name)] := by
  have htext : ("private void validate" ++ suffixOf a.name ++ "() \x7b").toList =
      "private void".toList ++
        ' ' :: (("validate" ++ suffixOf a.name).toList ++ '(' :: ") \x7b".toList) := by
    simp
  have hread := declaration?_word htext (by decide) (isWordCharacter_accessor h (by decide))
    (by simp) rfl
  rw [Member.validator, declarations_block (validator_wellNested h).body]
  exact congrArg Option.toList hread

end Fragments

theorem declarations_handlerTable :
    ClassOptions.handlerTable.declarations = [.field "handlers"] := by
  rw [ClassOptions.handlerTable, declarations_line]
  rfl

theorem declarations_entryPoint {o : ClassOptions} (h : isIdentifier o.className = true) :
    o.entryPoint.declarations = [.method "main"] := by
  rw [ClassOptions.entryPoint, declarations_block (entryPoint_wellNested h).body]
  rfl

theorem declarations_dispatcher (o : ClassOptions) :
    o.dispatcher.declarations = [.method "process"] := by
  rw [ClassOptions.dispatcher, declarations_block (dispatcher_wellNested (o := o)).body]
  rfl

/-! ### The whole class -/

theorem declares_nothing {ls : List SourceLine} (h : ∀ l ∈ ls, l.indent = 0) :
    ls.filterMap declaration? = [] := by
  rw [List.filterMap_eq_nil_iff]
  intro l hl
  apply declaration?_of_indent
  rw [h l hl]
  decide

theorem indent_preamble (o : ClassOptions) : ∀ l ∈ sourceLinesAll 0 o.preamble, l.indent = 0 := by
  unfold ClassOptions.preamble importsFor
  split
  · intro l hl
    rw [sourceLinesAll_eq_flatMap, List.flatMap_append, List.flatMap_map] at hl
    simp only [sourceLines_line, List.flatMap_singleton, sourceLines_blank, List.mem_append,
      List.mem_flatMap, List.mem_singleton] at hl
    rcases hl with ⟨text, -, rfl⟩ | rfl
    · rfl
    · rfl
  · simp

theorem filterMap_sourceLinesAll (cs : List Code) :
    (sourceLinesAll 1 cs).filterMap declaration? = cs.flatMap Code.declarations := by
  rw [sourceLinesAll_eq_flatMap, List.filterMap_flatMap]
  rfl

theorem declarations_classCode (o : ClassOptions) (ms : List Member) :
    (sourceLinesAll 0 (o.classCode ms)).filterMap declaration? =
      (o.classBody ms).flatMap Code.declarations := by
  have hpreamble := declares_nothing (indent_preamble o)
  have hheader : declaration? ⟨4 * 0, "public class " ++ o.className ++ " \x7b"⟩ = none :=
    declaration?_of_indent (by simp)
  have hclose : [(⟨4 * 0, "\x7d"⟩ : SourceLine)].filterMap declaration? = [] := rfl
  rw [ClassOptions.classCode, sourceLinesAll_eq_flatMap, List.flatMap_append,
    ← sourceLinesAll_eq_flatMap, List.flatMap_singleton, sourceLines_block, List.filterMap_append,
    hpreamble, List.nil_append, List.filterMap_cons_none hheader, List.filterMap_append, hclose,
    List.append_nil, filterMap_sourceLinesAll]

/-- The methods of a class, each named by its sort and, for those of an argument, its suffix. -/
inductive ClassMethod where
  | main
  | setter (suffix : String)
  | getter (suffix : String)
  | process
  | validator (suffix : String)
deriving DecidableEq, Repr

namespace ClassMethod

def name : ClassMethod → String
  | main => "main"
  | setter suffix => "set" ++ suffix
  | getter suffix => "get" ++ suffix
  | process => "process"
  | validator suffix => "validate" ++ suffix

/-- The first letter tells the sort. -/
theorem name_injective : Function.Injective name := by
  have hfirst : ∀ m : ClassMethod, m.name.toList.head? = some (match m with
      | main => 'm'
      | setter _ => 's'
      | getter _ => 'g'
      | process => 'p'
      | validator _ => 'v') := by
    intro m
    cases m <;> simp [name]
  intro m n hname
  have hsort := hfirst m
  rw [hname, hfirst n, Option.some.injEq] at hsort
  cases m <;> cases n <;> simp_all [name]

/-- The methods of a class whose arguments have the given suffixes, in their order. -/
def ofSuffixes (suffixes : List String) : List ClassMethod :=
  main :: (suffixes.map setter ++ suffixes.map getter ++ process :: suffixes.map validator)

/-- Methods of different sorts are different, so only a suffix can bring one back. -/
theorem nodup_ofSuffixes {suffixes : List String} :
    (ofSuffixes suffixes).Nodup ↔ suffixes.Nodup := by
  have hset : (suffixes.map setter).Nodup ↔ suffixes.Nodup :=
    List.nodup_map_iff fun _ _ => setter.inj
  have hget : (suffixes.map getter).Nodup ↔ suffixes.Nodup :=
    List.nodup_map_iff fun _ _ => getter.inj
  have hvalidate : (suffixes.map validator).Nodup ↔ suffixes.Nodup :=
    List.nodup_map_iff fun _ _ => validator.inj
  simp [ofSuffixes, List.nodup_append, hset, hget, hvalidate, or_imp, forall_and]

end ClassMethod

section Class

variable {o : ClassOptions} {args : List Argument} (hclass : isIdentifier o.className = true)
  (hnames : ∀ a ∈ args, isIdentifier a.name = true)
include hclass hnames

theorem declarations_constructor :
    (o.constructor (args.map Argument.member)).declarations = [.constructor o.className] := by
  have htext : ("public " ++ o.className ++ "() \x7b").toList =
      "public".toList ++ ' ' :: (o.className.toList ++ '(' :: ") \x7b".toList) := by
    simp
  have hread := declaration?_word htext (by decide)
    (fun _ => isWordCharacter_of_isIdentifier hclass) (ne_empty_of_isIdentifier hclass) rfl
  rw [ClassOptions.constructor, declarations_block (constructor_wellNested hclass hnames).body]
  exact congrArg Option.toList hread

theorem declarations_classBody :
    (o.classBody (args.map Argument.member)).flatMap Code.declarations =
      .method "main" :: (args.map (Declaration.field ·.name) ++
        [.field "handlers", .constructor o.className] ++
        args.map (fun a => Declaration.method ("set" ++ suffixOf a.name)) ++
        args.map (fun a => Declaration.method ("get" ++ suffixOf a.name)) ++
        .method "process" ::
          args.map (fun a => Declaration.method ("validate" ++ suffixOf a.name))) := by
  have hfields := List.flatMap_congr fun a ha => declarations_field (hnames a ha)
  have hsetters := List.flatMap_congr fun a ha => declarations_setter (hnames a ha)
  have hgetters := List.flatMap_congr fun a ha => declarations_getter (hnames a ha)
  have hvalidators := List.flatMap_congr fun a ha => declarations_validator (hnames a ha)
  rw [← List.map_eq_flatMap] at hfields hsetters hgetters hvalidators
  simp only [ClassOptions.classBody, List.flatMap_append, List.flatMap_cons, List.flatMap_nil,
    List.flatMap_map, List.flatMap_assoc, flatMap_intersperse declarations_blank,
    declarations_blank, declarations_entryPoint hclass, declarations_handlerTable,
    declarations_constructor hclass hnames, declarations_dispatcher, List.append_nil,
    List.nil_append, hfields, hsetters, hgetters, hvalidators]
  simp

end Class

/-! ### The text -/

def ArgumentList.suffixes (s : ArgumentList) : List String := s.arguments.map (suffixOf ·.name)

/-- Names with the same suffix can only differ in the first character. -/
theorem head?_ne_of_suffixOf_eq {n m : String} (hn : isIdentifier n = true)
    (hm : isIdentifier m = true) (hne : n ≠ m) (hsuffix : suffixOf n = suffixOf m) :
    n.toList.head? ≠ m.toList.head? := by
  intro hhead
  apply hne
  apply String.toList_inj.1
  have hsuffixes := accessorSuffix_eq_ok hn
  rw [hsuffix, ← accessorSuffix_eq_ok hm, accessorSuffix, accessorSuffix] at hsuffixes
  cases hcs : n.toList with
  | nil => simpa [hcs] using hhead.symm
  | cons c cs =>
    cases hds : m.toList with
    | nil => simp [hcs, hds] at hhead
    | cons d ds =>
      -- one first character has one uppercase, so the rests are the same
      rw [hcs, hds, List.head?_cons, List.head?_cons, Option.some.injEq] at hhead
      subst hhead
      simp only [hcs, hds, Except.ok.injEq] at hsuffixes
      have hrest := congrArg String.toList hsuffixes
      rw [String.toList_ofList, String.toList_ofList, List.append_cancel_left_eq] at hrest
      rw [hrest]

section Text

variable {s : ArgumentList} {o : ClassOptions} {text : String} (h : s.classText o = .ok text)
include h

theorem declarations_classText :
    declarations text = (o.classBody (s.arguments.map Argument.member)).flatMap Code.declarations ∧
      isIdentifier o.className = true ∧ ∀ a ∈ s.arguments, isIdentifier a.name = true := by
  obtain ⟨hclass, hnames, rfl⟩ := ArgumentList.classText_eq_ok_iff.1 h
  refine ⟨?_, hclass, hnames⟩
  rw [declarations, sourceLines_codeText (classCode_wellNested hclass hnames),
    declarations_classCode]

theorem declaredFields_classText : declaredFields text = s.names ++ ["handlers"] := by
  obtain ⟨htext, hclass, hnames⟩ := declarations_classText h
  rw [declaredFields, htext, declarations_classBody hclass hnames]
  simp [List.filterMap_append, List.filterMap_cons, List.filterMap_map, Declaration.field?,
    ArgumentList.names, Function.comp_def]

theorem declaredMethods_classText :
    declaredMethods text = (ClassMethod.ofSuffixes s.suffixes).map ClassMethod.name := by
  obtain ⟨htext, hclass, hnames⟩ := declarations_classText h
  rw [declaredMethods, htext, declarations_classBody hclass hnames]
  simp [List.filterMap_append, List.filterMap_cons, List.filterMap_map, Declaration.method?,
    ArgumentList.suffixes, ClassMethod.ofSuffixes, ClassMethod.name, Function.comp_def]

/-- **A class declares a name twice in two cases only**: an argument is called `handlers`, or two
    arguments have the same suffix.  Fields of arguments are always distinct, methods of different
    sorts as well, and arguments with the same suffix differ in the first character. -/
theorem declared_names :
    (declaredFields text = s.names ++ ["handlers"] ∧ s.names.Nodup ∧
      ((declaredFields text).Nodup ↔ "handlers" ∉ s.names)) ∧
    (declaredMethods text = (ClassMethod.ofSuffixes s.suffixes).map ClassMethod.name ∧
      (∀ m n : ClassMethod, m.name = n.name → m = n) ∧
      ((declaredMethods text).Nodup ↔ s.suffixes.Nodup)) ∧
    ∀ a ∈ s.arguments, ∀ b ∈ s.arguments, a.name ≠ b.name →
      suffixOf a.name = suffixOf b.name → a.name.toList.head? ≠ b.name.toList.head? := by
  obtain ⟨-, -, hnames⟩ := declarations_classText h
  have hfields := declaredFields_classText h
  have hmethods := declaredMethods_classText h
  refine ⟨⟨hfields, s.nodup, ?_⟩, ⟨hmethods, ?_, ?_⟩, ?_⟩
  · have hunique : s.names.Nodup := s.nodup
    rw [hfields, ← List.concat_eq_append, List.nodup_concat]
    simp [hunique]
  · intro m n hname
    exact ClassMethod.name_injective hname
  · rw [hmethods, List.nodup_map_iff ClassMethod.name_injective, ClassMethod.nodup_ofSuffixes]
  · intro a ha b hb
    exact head?_ne_of_suffixOf_eq (hnames a ha) (hnames b hb)

end Text

/-- Arguments that go on differently have members of their own. -/
theorem declared_names_without_clash :
    ∃ text,
      (ArgumentList.ofArguments
        [⟨"élan", "flag", true, false, false, false⟩,
          ⟨"Élans", "", false, false, false, false⟩]).classText
        { className := "main" } = .ok text ∧
      declaredFields text = ["élan", "Élans", "handlers"] ∧ (declaredFields text).Nodup ∧
        (declaredMethods text).Nodup := by
  have h := ArgumentList.classText_eq_ok_iff
    (s := .ofArguments
      [⟨"élan", "flag", true, false, false, false⟩, ⟨"Élans", "", false, false, false, false⟩])
    (o := { className := "main" }) |>.2 ⟨by decide, by decide, rfl⟩
  obtain ⟨⟨hfields, -, hfieldsNodup⟩, ⟨-, -, hmethodsNodup⟩, -⟩ := declared_names h
  exact ⟨_, h, hfields, hfieldsNodup.2 (by decide), hmethodsNodup.2 (by decide)⟩

/-- An argument list that is read and gives a class, in which a field and three methods are
    declared twice. -/
theorem declared_twice :
    ∃ s text, ArgumentList.read "\nhandlers,,,,,\nHandlers,,,,," "arguments.csv" = .ok s ∧
      s.classText {} = .ok text ∧ ¬(declaredFields text).Nodup ∧ ¬(declaredMethods text).Nodup := by
  have hread : ArgumentList.read "\nhandlers,,,,,\nHandlers,,,,," "arguments.csv" =
      .ok (ArgumentList.ofRows
        [⟨2, ⟨"handlers", "", false, false, false, false⟩⟩,
          ⟨3, ⟨"Handlers", "", false, false, false, false⟩⟩]) := rfl
  have htext := ArgumentList.classText_eq_ok_iff
    (s := ArgumentList.ofRows
        [⟨2, ⟨"handlers", "", false, false, false, false⟩⟩,
          ⟨3, ⟨"Handlers", "", false, false, false, false⟩⟩])
    (o := {}) |>.2 ⟨by decide, by decide, rfl⟩
  refine ⟨_, _, hread, htext, ?_, ?_⟩
  · rw [declaredFields_classText htext]
    decide
  · rw [declaredMethods_classText htext]
    decide

end ArgProcessor
