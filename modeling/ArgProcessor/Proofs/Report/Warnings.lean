/-
  ArgProcessor/Proofs/Report/Warnings.lean
  ========================================
  **The warnings of a report, told by the rows of the text.**

  What a row is to be warned of is read off its fields (`rowWarnings`).  The report has the
  replacements in the order of the rows, and then the warnings of the last row of each name, the
  names in the order in which they first occur (`warnsOfRows_check`).

  The link is that the arguments of a list are declared by the last rows of its text, row by row
  (`forall₂_lastRows`), since taking the last one of each name goes along with any relation that
  keeps names (`forall₂_lastOfEach`).
-/
import ArgProcessor.Proofs.ArgumentList.Overrides
import ArgProcessor.Report.Check

namespace ArgProcessor

/-! ### The last one of each name -/

/-- The last element under each name, in the order in which the names first occur. -/
def lastOfEach {α : Type} (key : α → String) (l : List α) : List α :=
  (l.map key).eraseDups.filterMap fun name => l.findRev? (key · == name)

theorem lastDeclarations_eq (l : List Argument) : lastDeclarations l = lastOfEach (·.name) l := rfl

section Related

variable {α β : Type} {R : α → β → Prop} {l : List α} {m : List β} (h : List.Forall₂ R l m)
include h

theorem map_eq_of_forall₂ {γ : Type} {f : α → γ} {g : β → γ} (hfg : ∀ x y, R x y → f x = g y) :
    l.map f = m.map g := by
  rw [← List.forall₂_eq_eq_eq, List.forall₂_map_left_iff, List.forall₂_map_right_iff]
  exact h.imp hfg

theorem find?_rel {p : α → Bool} {q : β → Bool} (hpq : ∀ x y, R x y → p x = q y) :
    Option.Rel R (l.find? p) (m.find? q) := by
  induction h with
  | nil => exact .none
  | @cons x y _ _ hxy _ ih =>
    rw [List.find?_cons, List.find?_cons, hpq x y hxy]
    cases q y with
    | true => exact .some hxy
    | false => exact ih

theorem forall₂_lastOfEach {key : α → String} {key' : β → String}
    (hkey : ∀ x y, R x y → key x = key' y) :
    List.Forall₂ R (lastOfEach key l) (lastOfEach key' m) := by
  have hlast : ∀ name,
      Option.Rel R (l.findRev? (key · == name)) (m.findRev? (key' · == name)) := by
    intro name
    rw [List.findRev?_eq_find?_reverse, List.findRev?_eq_find?_reverse]
    exact find?_rel (List.forall₂_reverse_iff.2 h) fun x y hxy => by rw [hkey x y hxy]
  rw [lastOfEach, lastOfEach, map_eq_of_forall₂ h hkey]
  exact List.rel_filterMap (R := Eq) (by rintro name _ rfl; exact hlast name) (List.forall₂_refl _)

end Related

/-! ### What a row is to be warned of -/

/-- The rows of a text: its lines after the header, but for the blank ones. -/
def dataRows (content : String) : List (List Char) :=
  (rowTexts content).tail.filter (¬IsBlankRow ·)

def declaredNames (content : String) : List String := ((dataRows content).map firstField).eraseDups

/-- The rows that no later row overrides: the last one of each name. -/
def lastRows (content : String) : List (List Char) := lastOfEach firstField (dataRows content)

/-- A field of a row, trimmed; the first one has the number 0. -/
def fieldAt (row : List Char) (i : Nat) : String := fieldText ((row.splitOn ',').getD i [])

/-- A token without blanks around it and with its ASCII letters in lowercase. -/
def lowercased (token : String) : String :=
  String.ofList ((Unicode.trim token.toList).map Char.toLower)

def HasUnknownType (row : List Char) : Prop :=
  lowercased (fieldAt row 1) ∉ ["string", "file", "path", "flag"]

/-- One of the three file system flags is set, and the type is neither file nor path. -/
def HasIdleChecks (row : List Char) : Prop :=
  (∃ i ∈ [3, 4, 5], fieldAt row i = "Yes") ∧ lowercased (fieldAt row 1) ∉ ["file", "path"]

instance : DecidablePred HasUnknownType := fun row =>
  inferInstanceAs (Decidable (lowercased (fieldAt row 1) ∉ ["string", "file", "path", "flag"]))

instance : DecidablePred HasIdleChecks := fun row =>
  inferInstanceAs (Decidable ((∃ i ∈ [3, 4, 5], fieldAt row i = "Yes") ∧
    lowercased (fieldAt row 1) ∉ ["file", "path"]))

/-- The warnings about a row that stays. -/
def rowWarnings (row : List Char) : List Warning :=
  (if HasUnknownType row then [.unknownType (firstField row) (fieldAt row 1)] else []) ++
    if HasIdleChecks row then [.idleFilesystemChecks (firstField row) (fieldAt row 1)] else []

/-- The warnings are those that the rows of the text call for. -/
structure WarnsOfRows (content : String) (s : ArgumentList) (warnings : List Warning) : Prop where
  names_le : (declaredNames content).length ≤ (dataRows content).length
  count : warnings.length =
    ((dataRows content).length - (declaredNames content).length) +
      (lastRows content).countP (HasUnknownType ·) + (lastRows content).countP (HasIdleChecks ·)
  order : ∃ replaced : List Override,
    warnings = replaced.map .replaced ++ (lastRows content).flatMap rowWarnings ∧
      (replaced.Pairwise fun o p => o.line < p.line) ∧
        ∀ o, o ∈ replaced ↔
          NamesAt content o.line o.name ∧ NamesAt content o.firstLine o.name ∧
            o.firstLine < o.line ∧ ∀ m, NamesAt content m o.name → o.firstLine ≤ m
  declarationOrder : (lastRows content).map firstField = s.names
  oneOfEach : s.names = declaredNames content
  none_iff : warnings = [] ↔
    ((dataRows content).map firstField).Nodup ∧
      ∀ row ∈ dataRows content, ¬HasUnknownType row ∧ ¬HasIdleChecks row
  onlyLast : ∀ w ∈ warnings, (∃ o, w = .replaced o) ∨
    ∃ n row, IsRowAt content n row ∧ (∀ m, NamesAt content m (firstField row) → m ≤ n) ∧
      w ∈ rowWarnings row

theorem rowWarnings_eq_nil_iff {row : List Char} :
    rowWarnings row = [] ↔ ¬HasUnknownType row ∧ ¬HasIdleChecks row := by
  rw [rowWarnings, List.append_eq_nil_iff]
  by_cases hunknown : HasUnknownType row <;> by_cases hidle : HasIdleChecks row <;>
    simp [hunknown, hidle]

theorem length_flatMap_rowWarnings (rows : List (List Char)) :
    (rows.flatMap rowWarnings).length =
      rows.countP (HasUnknownType ·) + rows.countP (HasIdleChecks ·) := by
  induction rows with
  | nil => rfl
  | cons row rows ih =>
    have hrow : (rowWarnings row).length =
        (if HasUnknownType row then 1 else 0) + if HasIdleChecks row then 1 else 0 := by
      rw [rowWarnings, List.length_append]
      split <;> split <;> rfl
    rw [List.flatMap_cons, List.length_append, ih, hrow, List.countP_cons, List.countP_cons]
    simp only [decide_eq_true_eq]
    omega

/-! ### What an argument is warned of -/

theorem isFallback_ofToken (token : String) :
    (Kind.ofToken token).isFallback = true ↔
      lowercased token ∉ ["string", "file", "path", "flag"] := by
  rw [Kind.ofToken, ← lowercased]
  split <;> simp_all [Kind.isFallback]

theorem isFilesystem_ofToken (token : String) :
    (Kind.ofToken token).isFilesystem = true ↔ lowercased token ∈ ["file", "path"] := by
  rw [Kind.ofToken, ← lowercased]
  split <;> simp_all [Kind.isFilesystem]

section Declared

variable {row : List Char} {a : Argument} (h : Declares row a)
include h

theorem typeToken_of_declares : a.typeToken = fieldAt row 1 := by
  obtain ⟨name, type, mandatory, existing, readable, writable, hsplit, -, rfl⟩ := h
  rw [fieldAt, hsplit]
  rfl

theorem wantsFilesystem_of_declares :
    a.wantsFilesystem = true ↔ ∃ i ∈ [3, 4, 5], fieldAt row i = "Yes" := by
  obtain ⟨name, type, mandatory, existing, readable, writable, hsplit, -, rfl⟩ := h
  simp [Argument.wantsFilesystem, fieldAt, hsplit, or_assoc]

/-- An argument is warned of as the row that declares it. -/
theorem warnings_of_declares : a.warnings = rowWarnings row := by
  have htype := typeToken_of_declares h
  have hunknown : a.kind.isFallback = true ↔ HasUnknownType row := by
    rw [Argument.kind, isFallback_ofToken, htype, HasUnknownType]
  have hidle : (a.wantsFilesystem && !a.kind.isFilesystem) = true ↔ HasIdleChecks row := by
    rw [Bool.and_eq_true, wantsFilesystem_of_declares h, Bool.not_eq_true', ← Bool.not_eq_true,
      Argument.kind, isFilesystem_ofToken, htype, HasIdleChecks]
  rw [Argument.warnings, rowWarnings, firstField_of_declares h, htype]
  simp only [hunknown, hidle]

end Declared

theorem flatMap_warnings_of_declares {rows : List (List Char)} {l : List Argument}
    (h : List.Forall₂ Declares rows l) :
    l.flatMap Argument.warnings = rows.flatMap rowWarnings := by
  have hmap := map_eq_of_forall₂ h fun row a ha => (warnings_of_declares ha).symm
  rw [List.flatMap_def, List.flatMap_def, hmap]

/-! ### Lists without overrides -/

theorem overridesOf_eq_nil_iff {rows : List Row} :
    overridesOf rows = [] ↔ (rows.map (·.argument.name)).Nodup := by
  induction rows using List.reverseRecOn with
  | nil => exact iff_of_true rfl List.nodup_nil
  | append_singleton rows r ih =>
    have hnew : overrideBy rows r = none ↔ r.argument.name ∉ rows.map (·.argument.name) := by
      rw [overrideBy_eq_none_iff, List.mem_map]
      constructor
      · rintro hne ⟨q, hq, hname⟩
        exact hne q hq hname
      · intro hnot q hq hname
        exact hnot ⟨q, hq, hname⟩
    rw [overridesOf_concat, List.append_eq_nil_iff, ih, Option.toList_eq_nil_iff, hnew,
      List.map_append, List.map_singleton, ← List.concat_eq_append, List.nodup_concat, and_comm]

/-- The arguments of a list without overrides are those of all its rows. -/
theorem arguments_ofRows_of_nodup {rows : List Row}
    (h : (rows.map (·.argument.name)).Nodup) :
    (ArgumentList.ofRows rows).arguments = rows.map (·.argument) := by
  apply ArgumentList.arguments_ofArguments_of_nodup
  rw [List.map_map]
  exact h

/-! ### The rows of a text that was read -/

section Text

variable {content : String} {rows : List Row}
  (h : rowsOfLines (Line.ofText content.toList).tail = .ok rows)
include h

theorem forall₂_dataRows : List.Forall₂ Declares (dataRows content) (rows.map (·.argument)) := by
  have hdeclares := ArgumentList.forall₂_declares h
  rw [Line.map_text_ofText] at hdeclares
  exact hdeclares

/-- **The arguments of a list are declared by the last rows of its text.** -/
theorem forall₂_lastRows :
    List.Forall₂ Declares (lastRows content) (ArgumentList.ofRows rows).arguments := by
  rw [ArgumentList.arguments_ofRows, lastDeclarations_eq]
  exact forall₂_lastOfEach (forall₂_dataRows h) fun row a ha => firstField_of_declares ha

theorem map_firstField_dataRows :
    (dataRows content).map firstField = rows.map (·.argument.name) := by
  have hnames := map_eq_of_forall₂ (forall₂_dataRows h) fun row a ha => firstField_of_declares ha
  rw [hnames, List.map_map]
  rfl

theorem names_ofRows : (ArgumentList.ofRows rows).names = declaredNames content := by
  have hnames := ArgumentList.names_ofArguments (rows.map (·.argument))
  rw [List.map_map] at hnames
  rw [declaredNames, map_firstField_dataRows h]
  exact hnames

/-- Each argument stands on a row that no later row overrides. -/
theorem exists_isRowAt_of_mem_arguments {a : Argument}
    (ha : a ∈ (ArgumentList.ofRows rows).arguments) :
    ∃ n row, IsRowAt content n row ∧ Declares row a ∧ ∀ m, NamesAt content m a.name → m ≤ n := by
  have hget := (ArgumentList.mem_arguments_iff _ a).1 ha
  obtain ⟨q, hq, hqname⟩ : ∃ q ∈ rows, q.argument.name = a.name := by
    by_contra hnone
    have hother : ∀ q ∈ rows, q.argument.name ≠ a.name := fun q hq hname => hnone ⟨q, hq, hname⟩
    rw [get?_ofRows_eq_none_iff.2 hother] at hget
    contradiction
  obtain ⟨r, hr, -, hlast, hlatest⟩ := exists_last_row (pairwise_line_of_rowsOfLines h) hq
  rw [hqname, hget, Option.some.injEq] at hlast
  rw [hqname] at hlatest
  obtain ⟨row, hrow, hdeclares⟩ := exists_isRowAt_of_mem h hr
  refine ⟨r.line, row, hrow, hlast ▸ hdeclares, ?_⟩
  intro m hm
  obtain ⟨p, hp, rfl, hpname⟩ := (namesAt_iff h).1 hm
  exact hlatest p hp hpname

end Text

/-- **A report warns of what the rows of the text call for**: each replacement, and then each fault
    of a row that was not replaced. -/
theorem warnsOfRows_check {content name : String} {s : ArgumentList}
    (h : ArgumentList.read content name = .ok s) (path : String) :
    WarnsOfRows content s (s.check path).warnings := by
  have hrecords := recordsOverrides_of_read h
  obtain ⟨rows, hrows, rfl⟩ := ArgumentList.read_eq_ok_iff.1 h
  have hnames := names_ofRows hrows
  have hwarnings : ((ArgumentList.ofRows rows).check path).warnings =
      (overridesOf rows).map .replaced ++ (lastRows content).flatMap rowWarnings := by
    rw [← flatMap_warnings_of_declares (forall₂_lastRows hrows)]
    rfl
  have hcount : (overridesOf rows).length + (declaredNames content).length =
      (dataRows content).length := by
    rw [← hnames, ArgumentList.names, List.length_map]
    exact hrecords.count
  constructor
  case names_le => omega
  case count =>
    rw [hwarnings, List.length_append, List.length_map, length_flatMap_rowWarnings]
    omega
  case order => exact ⟨overridesOf rows, hwarnings, hrecords.increasing, hrecords.mem_iff⟩
  case declarationOrder =>
    exact map_eq_of_forall₂ (forall₂_lastRows hrows) fun row a ha => firstField_of_declares ha
  case oneOfEach => exact hnames
  case none_iff =>
    rw [map_firstField_dataRows hrows, hwarnings, List.append_eq_nil_iff, List.map_eq_nil_iff,
      overridesOf_eq_nil_iff]
    refine and_congr_right fun hnodup => ?_
    rw [← flatMap_warnings_of_declares (forall₂_lastRows hrows),
      arguments_ofRows_of_nodup hnodup, flatMap_warnings_of_declares (forall₂_dataRows hrows),
      List.flatMap_eq_nil_iff]
    exact forall₂_congr fun row _ => rowWarnings_eq_nil_iff
  case onlyLast =>
    intro w hw
    rw [ArgumentList.check, List.mem_append, List.mem_map, List.mem_flatMap] at hw
    rcases hw with ⟨o, -, rfl⟩ | ⟨a, ha, hw⟩
    · exact Or.inl ⟨o, rfl⟩
    · obtain ⟨n, row, hrow, hdeclares, hlast⟩ := exists_isRowAt_of_mem_arguments hrows ha
      rw [← firstField_of_declares hdeclares] at hlast
      rw [warnings_of_declares hdeclares] at hw
      exact Or.inr ⟨n, row, hrow, hlast, hw⟩

/-- Of two rows for `a` and two for `b` the last ones count, and both of the first were at fault. -/
theorem warnsOfRows_check_overridden :
    ∃ content s,
      content = "h\na,int,,Yes,,\n \nb,Blob,,,Yes,\r\na,FILE,,Yes,,\nc,string,Yes,,,\nb,x,,,,Yes" ∧
        ArgumentList.read content = .ok s ∧
        (s.check "args.csv").warnings =
          [.replaced ⟨"a", 2, 5⟩, .replaced ⟨"b", 4, 7⟩, .unknownType "b" "x",
            .idleFilesystemChecks "b" "x"] ∧
        declaredNames content = ["a", "b", "c"] ∧
        WarnsOfRows content s (s.check "args.csv").warnings := by
  have hread : ArgumentList.read
      "h\na,int,,Yes,,\n \nb,Blob,,,Yes,\r\na,FILE,,Yes,,\nc,string,Yes,,,\nb,x,,,,Yes" =
      .ok (ArgumentList.ofRows
        [⟨2, ⟨"a", "int", false, true, false, false⟩⟩,
          ⟨4, ⟨"b", "Blob", false, false, true, false⟩⟩,
          ⟨5, ⟨"a", "FILE", false, true, false, false⟩⟩,
          ⟨6, ⟨"c", "string", true, false, false, false⟩⟩,
          ⟨7, ⟨"b", "x", false, false, false, true⟩⟩]) := rfl
  exact ⟨_, _, rfl, hread, rfl, rfl, warnsOfRows_check hread "args.csv"⟩

end ArgProcessor
