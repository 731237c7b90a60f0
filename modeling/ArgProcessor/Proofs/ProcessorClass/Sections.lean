/-
  ArgProcessor/Proofs/ProcessorClass/Sections.lean
  ================================================
  **The sections of a class run in step.**

  Five sections of a class have an entry for each argument: the fields, the handlers, the setters,
  the getters and the validation procedures.  They are written by five loops that know nothing of
  each other.  Here they are read back from the text alone: the entries of a section are the
  blocks whose first line begins as the entries of that section do (`ClassSection.begins`).

  In every section the entries found are those of the arguments, one each and in order
  (`classText_entries`).  No other line of the class begins like an entry.  The line with the
  separator begins with fixed text, and the lines that begin with a name go on in a way that no
  entry does, even where the name is `private` or `handlers`.
-/
import ArgProcessor.Proofs.Code.SourceLines
import ArgProcessor.Proofs.ProcessorClass.Nesting
import Mathlib.Data.List.Nodup

namespace ArgProcessor

/-! ### Sections and their entries -/

/-- The sections that have an entry for each argument. -/
inductive ClassSection where
  | fields
  | handlers
  | setters
  | getters
  | validators
deriving DecidableEq, Repr

namespace ClassSection

def typeNames : List String := ["String", "File", "Path", "Boolean", "Object"]

/-- The ways in which the first line of an entry begins. -/
def openings : ClassSection → List String
  | .fields => typeNames.map fun type => "private " ++ type ++ " "
  | .handlers => ["handlers.put("]
  | .setters => ["public void set"]
  | .getters => typeNames.map fun type => "public " ++ type ++ " get"
  | .validators => ["private void validate"]

def begins (x : ClassSection) (text : String) : Bool :=
  x.openings.any fun opening => opening.toList.isPrefixOf text.toList

/-- The lines of the clause for a check inside a validation procedure. -/
def clauseLines (name : String) (c : Check) : List SourceLine :=
  [⟨8, "if (" ++ c.condition ++ ") \x7b"⟩,
    ⟨12, "System.out.println(" ++ c.printed name ++ ");"⟩,
    ⟨8, "\x7d"⟩]

/-- The entry of an argument in a section. -/
def entry (a : Argument) : ClassSection → SourceBlock
  | .fields => ⟨⟨4, "private " ++ a.kind.typeName ++ " " ++ a.name ++ ";"⟩, []⟩
  | .handlers =>
    ⟨⟨8, "handlers.put(" ++ stringLiteral ("-" ++ a.name) ++ ", value -> \x7b"⟩,
      [⟨12, "set" ++ suffixOf a.name ++ "(" ++ a.kind.conversion "value" ++ ");"⟩,
        ⟨12, "validate" ++ suffixOf a.name ++ "();"⟩]⟩
  | .setters =>
    ⟨⟨4, "public void set" ++ suffixOf a.name ++ "(" ++ a.kind.typeName ++ " " ++ a.name ++
        ") \x7b"⟩,
      [⟨8, "this." ++ a.name ++ " = " ++ a.name ++ ";"⟩]⟩
  | .getters =>
    ⟨⟨4, "public " ++ a.kind.typeName ++ " get" ++ suffixOf a.name ++ "() \x7b"⟩,
      [⟨8, "return " ++ a.name ++ ";"⟩]⟩
  | .validators =>
    ⟨⟨4, "private void validate" ++ suffixOf a.name ++ "() \x7b"⟩,
      ⟨8, "String value = Objects.toString(get" ++ suffixOf a.name ++ "(), \"\");"⟩ ::
        a.checks.flatMap (clauseLines a.name)⟩

theorem begins_empty (x : ClassSection) : x.begins "" = false := by
  cases x <;> simp [begins, openings, typeNames]

end ClassSection

/-- The literal is the text between quotes, and nothing in it is read as an escape or as the end
    of the literal. -/
structure DenotesPlainly (literal text : String) : Prop where
  quoted : literal = "\"" ++ text ++ "\""
  plain : ∀ c ∈ text.toList, c ≠ '"' ∧ c ≠ '\\' ∧ Unicode.isControl c = false

open ClassSection Code

/-! ### Lines that begin no entry -/

/-- The line begins no entry of any section. -/
def Silent (text : String) : Prop := ∀ x : ClassSection, x.begins text = false

/-- The first letter of the line is one that no entry begins with. -/
def StartsOtherwise (text : String) : Prop := ∃ c, text.toList.head? = some c ∧ c ≠ 'p' ∧ c ≠ 'h'

theorem StartsOtherwise.fixed {c : Char} {cs : List Char} (hmodifier : c ≠ 'p')
    (htable : c ≠ 'h') : StartsOtherwise (String.ofList (c :: cs)) := by
  refine ⟨c, ?_, hmodifier, htable⟩
  rw [String.toList_ofList]
  rfl

theorem StartsOtherwise.silent {text : String} (h : StartsOtherwise text) : Silent text := by
  obtain ⟨c, hhead, hmodifier, htable⟩ := h
  obtain ⟨cs, hcs⟩ := List.head?_eq_some_iff.1 hhead
  intro x
  cases x <;>
    simp [begins, openings, typeNames, hcs, List.isPrefixOf_cons_cons, hmodifier.symm, htable.symm]

theorem StartsOtherwise.ne_empty {text : String} (h : StartsOtherwise text) : text ≠ "" := by
  rintro rfl
  obtain ⟨c, hhead, -⟩ := h
  simp at hhead

/-- If a text begins with a word and then another character, then so does any beginning of it
    that goes on after the word. -/
theorem dropWhile_word_prefix {o n t : List Char} {d : Char}
    (ho : o.dropWhile Unicode.isWordCharacter ≠ [])
    (hn : ∀ c ∈ n, Unicode.isWordCharacter c = true) (hd : Unicode.isWordCharacter d = false)
    (h : o <+: (n ++ d :: t)) : o.dropWhile Unicode.isWordCharacter <+: (d :: t) := by
  induction n generalizing o with
  | nil =>
    cases o with
    | nil => exact absurd rfl ho
    | cons c o =>
      have hc := h
      rw [List.nil_append, List.cons_prefix_cons] at hc
      rw [List.dropWhile_cons_of_neg (by simp [hc.1, hd])]
      exact h
  | cons x n ih =>
    rw [List.forall_mem_cons] at hn
    cases o with
    | nil => exact absurd rfl ho
    | cons c o =>
      rw [List.cons_append, List.cons_prefix_cons] at h
      obtain ⟨rfl, h⟩ := h
      rw [List.dropWhile_cons_of_pos hn.1] at ho ⊢
      exact ih ho hn.2 h

theorem openings_after_word (x : ClassSection) :
    ∀ o ∈ x.openings, 2 ≤ (o.toList.dropWhile Unicode.isWordCharacter).length ∧
      (o.toList.dropWhile Unicode.isWordCharacter).take 2 ≠ [' ', 'p'] := by
  cases x <;> decide

section Names

variable {name : String} (h : isIdentifier name = true)
include h

/-- The line that makes a processor begins with the name of the class, which may be any
    identifier. -/
theorem silent_newProcessor : Silent (name ++ " processor = new " ++ name ++ "();") := by
  intro x
  rw [begins, List.any_eq_false]
  intro o ho hprefix
  obtain ⟨hlength, hneq⟩ := openings_after_word x o ho
  rw [List.isPrefixOf_iff_prefix] at hprefix
  have htext : (name ++ " processor = new " ++ name ++ "();").toList =
      name.toList ++ ' ' :: 'p' :: ("rocessor = new ".toList ++ (name.toList ++ "();".toList)) := by
    simp
  rw [htext] at hprefix
  have hrest := dropWhile_word_prefix (List.ne_nil_of_length_pos (by omega))
    (fun _ hc => isWordCharacter_of_isIdentifier h hc) rfl hprefix
  rw [List.prefix_iff_eq_take] at hrest
  rw [hrest, List.take_take, Nat.min_eq_left hlength] at hneq
  exact hneq rfl

/-- The header of the constructor has a parenthesis where those of setters and getters have a
    blank. -/
theorem silent_constructor : Silent ("public " ++ name ++ "() \x7b") := by
  have hblank : ∀ o : String, (o.toList.dropWhile Unicode.isWordCharacter).head? = some ' ' →
      o.toList.isPrefixOf (name.toList ++ ['(', ')', ' ', '\x7b']) = false := by
    intro o ho
    rw [Bool.eq_false_iff]
    intro hprefix
    rw [List.isPrefixOf_iff_prefix] at hprefix
    obtain ⟨cs, hcs⟩ := List.head?_eq_some_iff.1 ho
    have hne : o.toList.dropWhile Unicode.isWordCharacter ≠ [] := by simp [hcs]
    have hrest := dropWhile_word_prefix hne
      (fun _ hc => isWordCharacter_of_isIdentifier h hc) rfl hprefix
    rw [hcs, List.cons_prefix_cons] at hrest
    exact absurd hrest.1 (by decide)
  have hset := hblank "void set" (by decide)
  have hget : ∀ t ∈ typeNames,
      (t ++ " get").toList.isPrefixOf (name.toList ++ ['(', ')', ' ', '\x7b']) = false := by
    intro t ht
    have hhead : ∀ t ∈ typeNames,
        ((t ++ " get").toList.dropWhile Unicode.isWordCharacter).head? = some ' ' := by decide
    exact hblank _ (hhead t ht)
  intro x
  cases x with
  | fields => simp [begins, openings, typeNames, List.isPrefixOf_cons_cons]
  | handlers => simp [begins, openings, List.isPrefixOf_cons_cons]
  | setters => simpa [begins, openings] using hset
  | getters => simpa [begins, openings, typeNames] using hget
  | validators => simp [begins, openings, List.isPrefixOf_cons_cons]

end Names

theorem silent_classHeader (name : String) : Silent ("public class " ++ name ++ " \x7b") := by
  intro x
  cases x <;> simp [begins, openings, typeNames, List.isPrefixOf_cons_cons]

/-! ### Entries in the code -/

theorem begins_entry (x y : ClassSection) (a : Argument) :
    x.begins (entry a y).header.text = decide (x = y) := by
  cases y with
  | fields =>
    generalize hk : a.kind = k
    cases x <;> cases k <;>
      simp [begins, openings, typeNames, entry, hk, Kind.typeName, List.isPrefixOf_cons_cons]
  | handlers =>
    cases x <;> simp [begins, openings, typeNames, entry, List.isPrefixOf_cons_cons]
  | setters =>
    cases x <;> simp [begins, openings, typeNames, entry, List.isPrefixOf_cons_cons]
  | getters =>
    generalize hk : a.kind = k
    cases x <;> cases k <;>
      simp [begins, openings, typeNames, entry, hk, Kind.typeName, List.isPrefixOf_cons_cons]
  | validators =>
    cases x <;> simp [begins, openings, typeNames, entry, List.isPrefixOf_cons_cons]

theorem blocks_of_silent {x : ClassSection} {ls : List SourceLine}
    (h : ∀ l ∈ ls, Silent l.text) : blocks x.begins ls = [] :=
  blocks_eq_nil fun l hl => h l hl x

/-- A block of code that is the entry of an argument in a section is found in that section
    only. -/
theorem blocks_of_entry {x y : ClassSection} {a : Argument} {depth : Nat} {header close : String}
    {body : List Code} (hentry : entry a y = ⟨⟨4 * depth, header⟩, sourceLinesAll (depth + 1) body⟩)
    (hnested : ∀ c ∈ body, c.WellNested) (hclose : StartsOtherwise close)
    (hbody : ∀ l ∈ sourceLinesAll (depth + 1) body, StartsOtherwise l.text) :
    blocks x.begins (Code.sourceLines depth (.block header close body)) =
      if x = y then [entry a y] else [] := by
  have hinside : (body.flatMap fun c => blocks x.begins (c.sourceLines (depth + 1))) = [] := by
    rw [← blocks_sourceLinesAll x.begins_empty hnested]
    exact blocks_of_silent fun l hl => (hbody l hl).silent
  have hheader : x.begins header = decide (x = y) := by
    rw [← begins_entry x y a, hentry]
  by_cases hxy : x = y
  · rw [decide_eq_true hxy] at hheader
    rw [if_pos hxy, blocks_of_header_pos x.begins_empty hnested hheader (hclose.silent x)
      (fun l hl => (hbody l hl).ne_empty), hinside, hentry]
  · rw [decide_eq_false hxy] at hheader
    rw [if_neg hxy, blocks_of_header_neg x.begins_empty hnested hheader (hclose.silent x), hinside]

section Entries

variable (x : ClassSection) {a : Argument}

theorem blocks_field : blocks x.begins (a.member.field.sourceLines 1) =
    if x = .fields then [entry a .fields] else [] := by
  have hbegins := begins_entry x .fields a
  rw [Member.field, sourceLines_line]
  by_cases hx : x = .fields
  · rw [decide_eq_true hx] at hbegins
    rw [if_pos hx, blocks, if_pos (by exact hbegins)]
    rfl
  · rw [decide_eq_false hx] at hbegins
    rw [if_neg hx, blocks_eq_nil]
    exact List.forall_mem_singleton.2 hbegins

variable (h : isIdentifier a.name = true)
include h

theorem blocks_handler : blocks x.begins (a.member.handler.sourceLines 2) =
    if x = .handlers then [entry a .handlers] else [] := by
  refine blocks_of_entry ?_ (handler_wellNested h).body (.fixed (by decide) (by decide)) ?_
  · simp [entry, Argument.key, Member.conversion]
  · simp [StartsOtherwise]

theorem blocks_setter : blocks x.begins (a.member.setter.sourceLines 1) =
    if x = .setters then [entry a .setters] else [] := by
  refine blocks_of_entry ?_ (setter_wellNested h).body (.fixed (by decide) (by decide)) ?_
  · simp [entry, Member.typeName, Member.name]
  · simp [StartsOtherwise]

theorem blocks_getter : blocks x.begins (a.member.getter.sourceLines 1) =
    if x = .getters then [entry a .getters] else [] := by
  refine blocks_of_entry ?_ (getter_wellNested h).body (.fixed (by decide) (by decide)) ?_
  · simp [entry, Member.typeName, Member.name]
  · simp [StartsOtherwise]

theorem blocks_validator : blocks x.begins (a.member.validator.sourceLines 1) =
    if x = .validators then [entry a .validators] else [] := by
  have hbody : sourceLinesAll 2 (a.validationBody (suffixOf a.name)) =
      ⟨8, "String value = Objects.toString(get" ++ suffixOf a.name ++ "(), \"\");"⟩ ::
        a.checks.flatMap (clauseLines a.name) := by
    simp [Argument.validationBody, sourceLinesAll_eq_flatMap, List.flatMap_map, Check.clause]
    rfl
  refine blocks_of_entry ?_ (validator_wellNested h).body (.fixed (by decide) (by decide)) ?_
  · simp [entry, hbody]
  · intro l hl
    rw [Argument.member_argument, Argument.member_suffix, hbody, List.mem_cons,
      List.mem_flatMap] at hl
    rcases hl with rfl | ⟨c, -, hl⟩
    · exact ⟨'S', by simp⟩
    · simp only [clauseLines, List.mem_cons, List.not_mem_nil, or_false] at hl
      rcases hl with rfl | rfl | rfl
      · exact ⟨'i', by simp⟩
      · exact ⟨'S', by simp⟩
      · exact ⟨'\x7d', by simp⟩

end Entries

/-! ### The whole class -/

theorem silent_preamble (o : ClassOptions) :
    ∀ l ∈ sourceLinesAll 0 o.preamble, Silent l.text := by
  have himports : ∀ text ∈ classImports, StartsOtherwise text := by
    intro text htext
    simp only [classImports, List.mem_cons, List.not_mem_nil, or_false] at htext
    rcases htext with rfl | rfl | rfl | rfl | rfl | rfl | rfl | rfl <;>
      exact .fixed (by decide) (by decide)
  unfold ClassOptions.preamble importsFor
  split
  · next imports h =>
    rw [Option.ite_none_right_eq_some, Option.some.injEq] at h
    obtain ⟨-, rfl⟩ := h
    intro l hl
    rw [sourceLinesAll_eq_flatMap, List.flatMap_append, List.flatMap_map, List.mem_append,
      List.mem_flatMap] at hl
    rcases hl with ⟨text, htext, hl⟩ | hl
    · rw [sourceLines_line, List.mem_singleton] at hl
      subst hl
      exact (himports text htext).silent
    · rw [List.flatMap_singleton, sourceLines_blank, List.mem_singleton] at hl
      subst hl
      exact begins_empty
  · simp

theorem silent_handlerTable : ∀ l ∈ ClassOptions.handlerTable.sourceLines 1, Silent l.text := by
  intro l hl
  rw [ClassOptions.handlerTable, sourceLines_line, List.mem_singleton] at hl
  subst hl
  intro x
  cases x <;> simp [begins, openings, typeNames, List.isPrefixOf_cons_cons]

theorem silent_entryPoint {o : ClassOptions} (h : isIdentifier o.className = true) :
    ∀ l ∈ o.entryPoint.sourceLines 1, Silent l.text := by
  intro l hl
  simp only [ClassOptions.entryPoint, sourceLines_block, sourceLinesAll_cons, sourceLinesAll_nil,
    sourceLines_line, List.cons_append, List.nil_append, List.mem_cons, List.not_mem_nil,
    or_false] at hl
  rcases hl with rfl | rfl | rfl | rfl
  · intro x
    cases x <;> simp [begins, openings, typeNames, List.isPrefixOf_cons_cons]
  · exact silent_newProcessor h
  · intro x
    cases x <;> simp [begins, openings, typeNames, List.isPrefixOf_cons_cons]
  · exact (StartsOtherwise.fixed (by decide) (by decide)).silent

theorem silent_dispatcher (o : ClassOptions) :
    ∀ l ∈ o.dispatcher.sourceLines 1, Silent l.text := by
  intro l hl
  simp only [ClassOptions.dispatcher, sourceLines_block, sourceLinesAll_cons, sourceLinesAll_nil,
    sourceLines_line, List.cons_append, List.nil_append, List.append_nil, List.mem_cons,
    List.not_mem_nil, or_false] at hl
  rcases hl with rfl | rfl | rfl | rfl | rfl | rfl | rfl | rfl | rfl | rfl | rfl | rfl | rfl
  · intro x
    cases x <;> simp [begins, openings, typeNames, List.isPrefixOf_cons_cons]
  · exact (StartsOtherwise.fixed (by decide) (by decide)).silent
  · exact StartsOtherwise.silent ⟨'S', by simp⟩
  · exact (StartsOtherwise.fixed (by decide) (by decide)).silent
  · exact (StartsOtherwise.fixed (by decide) (by decide)).silent
  · exact (StartsOtherwise.fixed (by decide) (by decide)).silent
  · exact (StartsOtherwise.fixed (by decide) (by decide)).silent
  · exact (StartsOtherwise.fixed (by decide) (by decide)).silent
  · exact (StartsOtherwise.fixed (by decide) (by decide)).silent
  · exact (StartsOtherwise.fixed (by decide) (by decide)).silent
  · intro x
    cases x <;> simp [begins, openings, typeNames, List.isPrefixOf_cons_cons]
  · exact (StartsOtherwise.fixed (by decide) (by decide)).silent
  · exact (StartsOtherwise.fixed (by decide) (by decide)).silent

/-- Pieces that are entries of the section `y` are found in that section only. -/
theorem flatMap_entries {x y : ClassSection} {args : List Argument}
    {f : Argument → List SourceBlock}
    (hf : ∀ a ∈ args, f a = if x = y then [entry a y] else []) :
    args.flatMap f = if x = y then args.map (entry · y) else [] := by
  rw [List.flatMap_congr hf]
  split
  · rw [List.map_eq_flatMap]
  · exact List.flatMap_eq_nil_iff.2 fun _ _ => rfl

section Class

variable {o : ClassOptions} {args : List Argument} (hclass : isIdentifier o.className = true)
  (hnames : ∀ a ∈ args, isIdentifier a.name = true) (x : ClassSection)
include hclass hnames

theorem blocks_constructor :
    blocks x.begins ((o.constructor (args.map Argument.member)).sourceLines 1) =
      if x = .handlers then args.map (entry · .handlers) else [] := by
  have hheader := silent_constructor hclass x
  have hclose : StartsOtherwise "\x7d" := .fixed (by decide) (by decide)
  rw [ClassOptions.constructor, blocks_of_header_neg x.begins_empty
    (constructor_wellNested hclass hnames).body hheader (hclose.silent x), List.flatMap_map,
    List.flatMap_map, flatMap_entries fun a ha => blocks_handler x (hnames a ha)]

theorem blocks_classBody :
    ((o.classBody (args.map Argument.member)).flatMap fun c => blocks x.begins (c.sourceLines 1)) =
      args.map (entry · x) := by
  have hblank : blocks x.begins (Code.blank.sourceLines 1) = [] := by
    rw [sourceLines_blank]
    exact blocks_eq_nil (by simp [begins_empty])
  have hgaps := flatMap_intersperse (f := fun c => blocks x.begins (c.sourceLines 1)) hblank
  have hentryPoint := blocks_of_silent (x := x) (silent_entryPoint hclass)
  have htable := blocks_of_silent (x := x) silent_handlerTable
  have hdispatcher := blocks_of_silent (x := x) (silent_dispatcher o)
  have hfields := flatMap_entries fun a (_ : a ∈ args) => blocks_field (a := a) x
  have hsetters := flatMap_entries fun a ha => blocks_setter x (hnames a ha)
  have hgetters := flatMap_entries fun a ha => blocks_getter x (hnames a ha)
  have hvalidators := flatMap_entries fun a ha => blocks_validator x (hnames a ha)
  simp only [ClassOptions.classBody, List.flatMap_append, List.flatMap_cons, List.flatMap_nil,
    List.flatMap_map, List.flatMap_assoc, hgaps, hblank, hentryPoint, htable, hdispatcher,
    blocks_constructor hclass hnames x, List.append_nil, List.nil_append, hfields, hsetters,
    hgetters, hvalidators]
  cases x <;> simp

/-- **The entries of a section are those of the arguments**, one each and in order. -/
theorem blocks_classCode :
    blocks x.begins (sourceLinesAll 0 (o.classCode (args.map Argument.member))) =
      args.map (entry · x) := by
  have hnested := classCode_wellNested (o := o) hclass hnames
  have hpreamble : (o.preamble.flatMap fun c => blocks x.begins (c.sourceLines 0)) = [] := by
    rw [← blocks_sourceLinesAll x.begins_empty preamble_wellNested]
    exact blocks_of_silent (silent_preamble o)
  have hclose : StartsOtherwise "\x7d" := .fixed (by decide) (by decide)
  rw [blocks_sourceLinesAll x.begins_empty hnested, ClassOptions.classCode, List.flatMap_append,
    hpreamble, List.nil_append, List.flatMap_singleton, blocks_of_header_neg x.begins_empty
      (classBody_wellNested hclass hnames) (silent_classHeader _ x) (hclose.silent x),
    blocks_classBody hclass hnames]

end Class

/-! ### Keys -/

theorem plain_of_isWordCharacter {c : Char} (h : Unicode.isWordCharacter c = true) :
    c ≠ '"' ∧ c ≠ '\\' ∧ Unicode.isControl c = false := by
  refine ⟨?_, ?_, ?_⟩
  · rintro rfl
    contradiction
  · rintro rfl
    contradiction
  · rw [Bool.eq_false_iff]
    intro hcontrol
    obtain ⟨r, hr, hfirst, hlast⟩ := Unicode.Ranges.contains_iff.1 hcontrol
    have hinside : ∀ r ∈ Unicode.control, ∃ p ∈ Unicode.punctuation, p.1 ≤ r.1 ∧ r.2 ≤ p.2 := by
      decide
    obtain ⟨p, hp, hle, hge⟩ := hinside r hr
    have hpunctuation : Unicode.punctuation.contains c = true :=
      Unicode.Ranges.contains_iff.2 ⟨p, hp, by omega, by omega⟩
    rw [Unicode.isWordCharacter, hpunctuation] at h
    contradiction

theorem denotesPlainly_stringLiteral {text : String}
    (h : ∀ c ∈ text.toList, c ≠ '"' ∧ c ≠ '\\' ∧ Unicode.isControl c = false) :
    DenotesPlainly (stringLiteral text) text where
  quoted := by
    have hescape : ∀ c ∈ text.toList, escapeChar c = [c] := by
      intro c hc
      obtain ⟨hquote, hslash, hcontrol⟩ := h c hc
      obtain ⟨d, hd, -⟩ | ⟨hcontrol', -⟩ | ⟨-, -, -, he⟩ := escapeChar_cases c
      · -- the other characters with a short escape are control characters
        have hshort : ∀ p ∈ shortEscapes, p.1 = '"' ∨ p.1 = '\\' ∨
            Unicode.isControl p.1 = true := by decide
        rcases hshort _ hd with hp | hp | hp
        · exact absurd hp hquote
        · exact absurd hp hslash
        · rw [hcontrol] at hp
          contradiction
      · rw [hcontrol] at hcontrol'
        contradiction
      · exact he
    apply String.toList_inj.1
    rw [toList_stringLiteral, List.flatMap_congr hescape]
    simp
  plain := h

theorem key_denotesPlainly {name : String} (h : isIdentifier name = true) :
    DenotesPlainly (stringLiteral ("-" ++ name)) ("-" ++ name) := by
  apply denotesPlainly_stringLiteral
  intro c hc
  rw [String.toList_append, List.mem_append] at hc
  rcases hc with hc | hc
  · obtain rfl : c = '-' := by simpa using hc
    decide
  · exact plain_of_isWordCharacter (isWordCharacter_of_isIdentifier h hc)

theorem nodup_keyLiterals (s : ArgumentList) :
    (s.arguments.map fun a => stringLiteral ("-" ++ a.name)).Nodup := by
  have hinj : Function.Injective fun name : String => stringLiteral ("-" ++ name) := by
    intro n m hnm
    exact (String.append_right_inj _).1 (stringLiteral_injective hnm)
  have hmapped := List.Nodup.map hinj s.nodup
  rwa [List.map_map] at hmapped

/-! ### The text -/

theorem blocks_classText {s : ArgumentList} {o : ClassOptions} {text : String}
    (h : s.classText o = .ok text) (x : ClassSection) :
    blocks x.begins (sourceLines text) = s.arguments.map (entry · x) := by
  obtain ⟨hclass, hnames, rfl⟩ := ArgumentList.classText_eq_ok_iff.1 h
  rw [sourceLines_codeText (classCode_wellNested hclass hnames), blocks_classCode hclass hnames]

/-- **Each section of a class has one entry for each argument, in order**, whatever the
    separator.  The keys of the handlers denote the names after a hyphen, and no two handlers
    have the same key. -/
theorem classText_entries {s : ArgumentList} {o : ClassOptions} {text : String}
    (h : s.classText o = .ok text) :
    (∀ x : ClassSection, blocks x.begins (sourceLines text) = s.arguments.map (entry · x)) ∧
      (∀ a ∈ s.arguments, accessorSuffix a.name = .ok (suffixOf a.name) ∧
        DenotesPlainly (stringLiteral ("-" ++ a.name)) ("-" ++ a.name)) ∧
      (s.arguments.map fun a => stringLiteral ("-" ++ a.name)).Nodup := by
  obtain ⟨-, hnames, -⟩ := ArgumentList.classText_eq_ok_iff.1 h
  refine ⟨blocks_classText h, ?_, nodup_keyLiterals s⟩
  intro a ha
  exact ⟨accessorSuffix_eq_ok (hnames a ha), key_denotesPlainly (hnames a ha)⟩

/-- A separator that looks like entries of all sections, in a class called `private`. -/
theorem classText_entries_hostile_separator :
    ∃ text,
      (ArgumentList.ofArguments [⟨"élan", "flag", true, false, false, false⟩]).classText
        { className := "private",
          separator := "\nprivate File x;\n    handlers.put(\"-x\", value -> \x7b\n" } = .ok text ∧
      blocks ClassSection.fields.begins (sourceLines text) = [⟨⟨4, "private Boolean élan;"⟩, []⟩] ∧
      blocks ClassSection.handlers.begins (sourceLines text) =
        [⟨⟨8, "handlers.put(\"-élan\", value -> \x7b"⟩,
          [⟨12, "setÉlan(value.isEmpty() ? null : Boolean.valueOf(value));"⟩,
            ⟨12, "validateÉlan();"⟩]⟩] := by
  have h := ArgumentList.classText_eq_ok_iff
    (s := .ofArguments [⟨"élan", "flag", true, false, false, false⟩])
    (o := { className := "private",
            separator := "\nprivate File x;\n    handlers.put(\"-x\", value -> \x7b\n" }) |>.2
    ⟨by decide, by decide, rfl⟩
  refine ⟨_, h, ?_, ?_⟩
  · exact (classText_entries h).1 .fields
  · exact (classText_entries h).1 .handlers

end ArgProcessor
