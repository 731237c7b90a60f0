/-
  ArgProcessor/Unicode/Ranges.lean
  ================================
  **Sets of characters given by ranges of code points.**

  A character class of the Unicode standard is a table of closed ranges.  Membership is a scan
  of the table (`Ranges.contains`); two tables whose ranges keep apart have no character in
  common (`Ranges.not_contains_of_apart`), which is how one class is shown to exclude another
  by looking at the tables alone.
-/

namespace ArgProcessor.Unicode

/-- A set of code points as closed ranges `(first, last)`. -/
abbrev Ranges := List (Nat × Nat)

/-- Whether the code point of `c` lies in one of the ranges. -/
def Ranges.contains (rs : Ranges) (c : Char) : Bool :=
  rs.any fun r => r.1 ≤ c.toNat && c.toNat ≤ r.2

/-- Whether no range of the first table meets a range of the second. -/
def Ranges.apart (rs ss : Ranges) : Bool :=
  rs.all fun r => ss.all fun s => r.2 < s.1 || s.2 < r.1

/-! ### Membership -/

theorem Ranges.contains_iff {rs : Ranges} {c : Char} :
    rs.contains c = true ↔ ∃ r ∈ rs, r.1 ≤ c.toNat ∧ c.toNat ≤ r.2 := by
  simp [Ranges.contains]

/-- Tables that keep apart share no character. -/
theorem Ranges.not_contains_of_apart {rs ss : Ranges} (h : rs.apart ss = true) {c : Char}
    (hc : rs.contains c = true) : ss.contains c = false := by
  obtain ⟨r, hr, h1, h2⟩ := contains_iff.1 hc
  rw [Bool.eq_false_iff]
  intro hs
  obtain ⟨s, hs, h3, h4⟩ := contains_iff.1 hs
  simp only [apart, List.all_eq_true, Bool.or_eq_true, decide_eq_true_eq] at h
  have := h r hr s hs
  omega

end ArgProcessor.Unicode
