/-
  ArgProcessor/Proofs/ArgumentList/Admission.lean
  ===============================================
  **Which names can be declared in a text.**

  The arguments of a list that was read have identifiers for names (`isIdentifier_of_read`).  No
  identifier is left out: it is neither trimmed nor cut at a comma or at the end of a line, so
  the row that says nothing but the name declares it (`read_bareRow`).
-/
import ArgProcessor.Proofs.ArgumentList.Acceptance
import ArgProcessor.Proofs.Unicode.WordCharacter

namespace ArgProcessor

/-! ### Trimming a name -/

namespace Unicode

theorem not_isBlank_of_isAlphabetic {c : Char} (h : isAlphabetic c = true) : isBlank c = false :=
  Ranges.not_contains_of_apart (by decide +kernel) h

theorem not_isBlank_of_isNumber {c : Char} (h : isNumber c = true) : isBlank c = false :=
  Ranges.not_contains_of_apart (by decide +kernel) h

theorem dropWhile_isBlank_eq_self {cs : List Char} (h : ∀ c ∈ cs, isBlank c = false) :
    cs.dropWhile isBlank = cs := by
  cases cs with
  | nil => rfl
  | cons c cs => rw [List.dropWhile_cons, h c List.mem_cons_self, if_neg Bool.false_ne_true]

theorem trim_eq_self {cs : List Char} (h : ∀ c ∈ cs, isBlank c = false) : trim cs = cs := by
  have hreverse : ∀ c ∈ cs.reverse, isBlank c = false := fun c hc => h c (List.mem_reverse.1 hc)
  rw [trim, trimEnd, dropWhile_isBlank_eq_self h, dropWhile_isBlank_eq_self hreverse,
    List.reverse_reverse]

end Unicode

theorem not_isBlank_of_continues {c : Char} (h : continuesIdentifier c = true) :
    Unicode.isBlank c = false := by
  simp only [continuesIdentifier, Unicode.isAlphanumeric, Bool.or_eq_true, beq_iff_eq] at h
  rcases h with ((h | h) | rfl) | rfl
  · exact Unicode.not_isBlank_of_isAlphabetic h
  · exact Unicode.not_isBlank_of_isNumber h
  · rfl
  · rfl

theorem fieldText_of_isIdentifier {name : String} (h : isIdentifier name = true) :
    fieldText name.toList = name := by
  have hblank : ∀ c ∈ name.toList, Unicode.isBlank c = false := fun _ hc =>
    not_isBlank_of_continues (continues_of_mem h hc)
  rw [fieldText, Unicode.trim_eq_self hblank, String.ofList_toList]

/-! ### Names that are read -/

theorem isIdentifier_of_declares {row : List Char} {a : Argument} (h : Declares row a) :
    isIdentifier a.name = true := by
  obtain ⟨_, _, _, _, _, _, -, hname, rfl⟩ := h
  exact hname

namespace ArgumentList

theorem mem_of_mem_ofArguments {l : List Argument} {a : Argument}
    (h : a ∈ (ofArguments l).arguments) : a ∈ l := by
  have hlast := findRev?_of_mem_ofArguments h
  rw [List.findRev?_eq_find?_reverse] at hlast
  exact List.mem_reverse.1 (List.mem_of_find?_eq_some hlast)

theorem isIdentifier_of_read {content source : String} {s : ArgumentList}
    (h : read content source = .ok s) : ∀ a ∈ s.arguments, isIdentifier a.name = true := by
  obtain ⟨rows, hrows, rfl⟩ := read_eq_ok_iff.1 h
  have hdeclared : List.Forall₂ (fun a row => Declares row a) (rows.map (·.argument)) _ :=
    (forall₂_declares hrows).flip
  have hnames := List.forall₂_and_left _ _ |>.1
    (hdeclared.imp fun _ _ ha => ⟨isIdentifier_of_declares ha, ha⟩)
  exact fun a ha => hnames.1 a (mem_of_mem_ofArguments ha)

end ArgumentList

/-! ### Names that can be read -/

/-- Six fields without commas, written with commas between them, declare an argument. -/
theorem declares_intercalate {name type mandatory existing readable writable : List Char}
    (hcomma : ∀ f ∈ [name, type, mandatory, existing, readable, writable], ',' ∉ f)
    (hname : isIdentifier (fieldText name) = true) :
    Declares ([','].intercalate [name, type, mandatory, existing, readable, writable]) {
      name := fieldText name
      typeToken := fieldText type
      mandatory := decide (fieldText mandatory = "Yes")
      existing := decide (fieldText existing = "Yes")
      readable := decide (fieldText readable = "Yes")
      writable := decide (fieldText writable = "Yes") } :=
  ⟨_, _, _, _, _, _, List.splitOn_intercalate ',' hcomma (List.cons_ne_nil _ _), hname, rfl⟩

/-- The row of a name with nothing in the other fields. -/
def bareRow (name : String) : List Char := name.toList ++ [',', ',', ',', ',', ',']

section BareRow

variable {name : String} (h : isIdentifier name = true)
include h

theorem not_mem_of_isIdentifier {c : Char} (hc : Unicode.isWordCharacter c = false) :
    c ∉ name.toList := by
  intro hmem
  rw [isWordCharacter_of_isIdentifier h hmem] at hc
  contradiction

theorem declares_bareRow : Declares (bareRow name) ⟨name, "", false, false, false, false⟩ := by
  have hcomma : ∀ f ∈ [name.toList, [], [], [], [], []], ',' ∉ f := by
    simp [not_mem_of_isIdentifier h (c := ',') rfl]
  have hfield := fieldText_of_isIdentifier h
  have hdeclares := declares_intercalate hcomma (hfield.symm ▸ h)
  have hempty : fieldText [] = "" := rfl
  rw [hfield, hempty] at hdeclares
  simpa [bareRow, List.intercalate_cons_cons] using hdeclares

theorem splitOn_bareRow : ('\n' :: bareRow name).splitOn '\n' = [[], bareRow name] := by
  have hline : ∀ p ∈ [[], bareRow name], '\n' ∉ p := by
    simp [bareRow, not_mem_of_isIdentifier h (c := '\n') rfl]
  have hsplit := List.splitOn_intercalate '\n' hline (List.cons_ne_nil _ _)
  simpa [List.intercalate_cons_cons] using hsplit

theorem rowsOfLines_bareRow (number offset : Nat) :
    rowsOfLines [⟨number, offset, bareRow name⟩] =
      .ok [⟨number, ⟨name, "", false, false, false, false⟩⟩] := by
  have hblank : Line.isBlank ⟨number, offset, bareRow name⟩ = false := by
    rw [Bool.eq_false_iff, ne_eq, Line.isBlank_iff]
    intro hb
    have := hb ',' (List.mem_append_right _ List.mem_cons_self)
    contradiction
  rw [rowsOfLines_eq_ok_iff, List.filter_cons_of_pos (by rw [hblank]; rfl), List.filter_nil]
  exact .cons ⟨rfl, declares_bareRow h⟩ .nil

theorem ArgumentList.read_bareRow :
    ∃ s, read (String.ofList ('\n' :: bareRow name)) = .ok s ∧ name ∈ s.names := by
  have hrow : dropReturn (bareRow name) = bareRow name := by
    rw [dropReturn_eq, rowOfPiece, if_neg (by simp [bareRow])]
  have hlines : (Line.ofText ('\n' :: bareRow name)).tail = [⟨2, 1, bareRow name⟩] := by
    rw [Line.ofText, splitOn_bareRow h, Line.locate, Line.locate, hrow]
    rfl
  have hrows := rowsOfLines_bareRow h 2 1
  rw [← hlines, ← String.toList_ofList (l := '\n' :: bareRow name)] at hrows
  exact ⟨_, read_eq_ok_iff.2 ⟨_, hrows, rfl⟩, List.mem_cons_self⟩

end BareRow

namespace ArgumentList

/-- **The names that can be declared in a text are the identifiers.** -/
theorem exists_read_iff (name : String) :
    (∃ content source s, read content source = .ok s ∧ name ∈ s.names) ↔
      isIdentifier name = true := by
  constructor
  · rintro ⟨content, source, s, hread, hname⟩
    obtain ⟨a, ha, rfl⟩ := List.mem_map.1 hname
    exact isIdentifier_of_read hread a ha
  · intro h
    obtain ⟨s, hread, hname⟩ := read_bareRow h
    exact ⟨_, _, s, hread, hname⟩

end ArgumentList

end ArgProcessor
