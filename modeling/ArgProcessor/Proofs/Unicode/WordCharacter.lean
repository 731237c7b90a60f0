/-
  ArgProcessor/Proofs/Unicode/WordCharacter.lean
  ==============================================
  **The characters of names have no meaning of their own in code.**

  A word character is one that is neither a control character nor ASCII punctuation, the dollar
  and the underscore apart.  Brackets, quotes, backslashes, blanks and line feeds are no word
  characters.  All characters of an identifier are (`isWordCharacter_of_isIdentifier`), and so
  are those of its accessor suffix (`isWordCharacter_of_accessorSuffix`), although uppercasing
  can lead out of the identifiers: `ΐ` becomes a letter and two combining marks.

  Each statement is read off the tables of ranges: a table that keeps apart from the excluded
  ranges has only word characters.
-/
import ArgProcessor.Argument.Name

namespace ArgProcessor

namespace Unicode

/-- The control characters and the ASCII characters that are no part of a word. -/
def punctuation : Ranges :=
  [(0x0, 0x23), (0x25, 0x2F), (0x3A, 0x40), (0x5B, 0x5E), (0x60, 0x60), (0x7B, 0x9F)]

/-- Whether a character can be part of a word. -/
def isWordCharacter (c : Char) : Bool := !punctuation.contains c

theorem isWordCharacter_of_contains {rs : Ranges} (h : rs.apart punctuation = true) {c : Char}
    (hc : rs.contains c = true) : isWordCharacter c = true := by
  rw [isWordCharacter, Ranges.not_contains_of_apart h hc]
  rfl

theorem isWordCharacter_of_isAlphabetic {c : Char} (h : isAlphabetic c = true) :
    isWordCharacter c = true :=
  isWordCharacter_of_contains (by decide +kernel) h

theorem isWordCharacter_of_isNumber {c : Char} (h : isNumber c = true) :
    isWordCharacter c = true :=
  isWordCharacter_of_contains (by decide +kernel) h

/-! ### Uppercase -/

/-- The code points between the first and the last character that no character has. -/
def unassignable : Ranges := [(0xD800, 0xDFFF)]

/-- Whether a run moves its characters to word characters. -/
def CaseRun.staysInWords (r : CaseRun) : Bool :=
  0 ≤ r.first + r.shift && r.last + r.shift ≤ 0x10FFFF &&
    Ranges.apart [((r.first + r.shift).toNat, (r.last + r.shift).toNat)]
      (unassignable ++ punctuation)

theorem uppercaseRuns_staysInWords : uppercaseRuns.all CaseRun.staysInWords = true := by
  decide +kernel

theorem longUppercase_isWordCharacter :
    (longUppercase.all fun p => p.2.all fun n => isWordCharacter (Char.ofNat n)) = true := by
  decide +kernel

theorem toNat_ofNat {n : Nat} (h : n.isValidChar) : (Char.ofNat n).toNat = n := by
  rw [Char.ofNat, dif_pos h]
  rfl

/-- A character of a run moves to a word character. -/
theorem CaseRun.isWordCharacter_of_contains {r : CaseRun} (hr : r.staysInWords = true) {n : Nat}
    (hn : r.contains n = true) : isWordCharacter (Char.ofNat (n + r.shift).toNat) = true := by
  simp only [CaseRun.contains, Bool.and_eq_true, decide_eq_true_eq] at hn
  simp only [CaseRun.staysInWords, Bool.and_eq_true, decide_eq_true_eq] at hr
  obtain ⟨⟨hfirst, hlast⟩, -⟩ := hn
  obtain ⟨⟨hlow, hhigh⟩, hapart⟩ := hr
  generalize hm : (n + r.shift).toNat = m
  have hapart' : ∀ s ∈ unassignable ++ punctuation, m < s.1 ∨ s.2 < m := by
    intro s hs
    simp only [Ranges.apart, List.all_cons, List.all_nil, Bool.and_true, List.all_eq_true,
      Bool.or_eq_true, decide_eq_true_eq] at hapart
    have := hapart s hs
    omega
  have hvalid : m.isValidChar := by
    have := hapart' (0xD800, 0xDFFF) (by simp [unassignable])
    simp only [Nat.isValidChar]
    omega
  rw [isWordCharacter, Bool.not_eq_true', Bool.eq_false_iff]
  intro hc
  obtain ⟨s, hs, h1, h2⟩ := Ranges.contains_iff.1 hc
  rw [toNat_ofNat hvalid] at h1 h2
  have := hapart' s (List.mem_append_right _ hs)
  omega

/-- **Uppercasing keeps word characters.** -/
theorem isWordCharacter_of_mem_uppercase {c d : Char} (hc : isWordCharacter c = true)
    (hd : d ∈ uppercase c) : isWordCharacter d = true := by
  unfold uppercase at hd
  split at hd
  · next cs hcs =>
    obtain ⟨n, hn, rfl⟩ := List.mem_map.1 hd
    obtain ⟨_, _, hl, -⟩ := List.lookup_eq_some_iff.1 hcs
    have hmem : (c.toNat, cs) ∈ longUppercase := by simp [hl]
    have htable := List.all_eq_true.1 longUppercase_isWordCharacter _ hmem
    exact List.all_eq_true.1 htable n hn
  · split at hd
    · next r hr =>
      rw [List.mem_singleton.1 hd]
      have htable := List.all_eq_true.1 uppercaseRuns_staysInWords r (List.mem_of_find?_eq_some hr)
      have hn : r.contains c.toNat = true := by simpa using List.find?_some hr
      exact CaseRun.isWordCharacter_of_contains htable hn
    · rw [List.mem_singleton.1 hd]
      exact hc

end Unicode

/-! ### Names -/

open Unicode

theorem isWordCharacter_of_continues {c : Char} (h : continuesIdentifier c = true) :
    isWordCharacter c = true := by
  simp only [continuesIdentifier, isAlphanumeric, Bool.or_eq_true, beq_iff_eq] at h
  rcases h with ((h | h) | rfl) | rfl
  · exact isWordCharacter_of_isAlphabetic h
  · exact isWordCharacter_of_isNumber h
  · rfl
  · rfl

/-- The characters of an identifier are word characters. -/
theorem isWordCharacter_of_isIdentifier {name : String} (h : isIdentifier name = true) {c : Char}
    (hc : c ∈ name.toList) : isWordCharacter c = true :=
  isWordCharacter_of_continues (continues_of_mem h hc)

/-- So are those of its accessor suffix. -/
theorem isWordCharacter_of_accessorSuffix {name suffix : String} (h : isIdentifier name = true)
    (hs : accessorSuffix name = .ok suffix) {c : Char} (hc : c ∈ suffix.toList) :
    isWordCharacter c = true := by
  have hname : ∀ d ∈ name.toList, isWordCharacter d = true := fun d =>
    isWordCharacter_of_isIdentifier h
  unfold accessorSuffix at hs
  split at hs
  · cases hs
  · next d ds hl =>
    rw [hl] at hname
    cases hs
    rw [String.toList_ofList] at hc
    rcases List.mem_append.1 hc with hc | hc
    · exact isWordCharacter_of_mem_uppercase (hname d List.mem_cons_self) hc
    · exact hname c (List.mem_cons_of_mem _ hc)

end ArgProcessor
