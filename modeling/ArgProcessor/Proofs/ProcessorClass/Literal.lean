/-
  ArgProcessor/Proofs/ProcessorClass/Literal.lean
  ===============================================
  **A string literal stands for one text only.**

  A character is escaped in one of three ways: by a short escape, by its code point, or not at
  all (`escapeChar_cases`).  No escaped form is the beginning of another one
  (`escapeChar_append_inj`), so the text can be read off its literal (`stringLiteral_injective`).
  No form holds a control character, and so no literal does.
-/
import ArgProcessor.ProcessorClass.Literal

namespace ArgProcessor

/-! ### Hexadecimal digits -/

theorem digitChar_injective : ∀ m < 16, ∀ n < 16, m.digitChar = n.digitChar → m = n := by decide

theorem hexDigits4_injective {m n : Nat} (hm : m < 65536) (hn : n < 65536)
    (h : hexDigits4 m = hexDigits4 n) : m = n := by
  have hdigit : ∀ i j, (i % 16).digitChar = (j % 16).digitChar → i % 16 = j % 16 := fun i j =>
    digitChar_injective _ (Nat.mod_lt _ (by decide)) _ (Nat.mod_lt _ (by decide))
  simp only [hexDigits4, List.cons.injEq, and_true] at h
  obtain ⟨h₃, h₂, h₁, h₀⟩ := h
  have := hdigit _ _ h₃
  have := hdigit _ _ h₂
  have := hdigit _ _ h₁
  have := hdigit _ _ h₀
  omega

theorem mem_hexDigits4 {n : Nat} {c : Char} (h : c ∈ hexDigits4 n) :
    ∃ i < 16, c = i.digitChar := by
  simp only [hexDigits4, List.mem_cons, List.not_mem_nil, or_false] at h
  rcases h with rfl | rfl | rfl | rfl <;> exact ⟨_, Nat.mod_lt _ (by decide), rfl⟩

/-! ### Escaped characters -/

/-- The characters with a short escape, and the letters of these escapes. -/
def shortEscapes : List (Char × Char) :=
  [('"', '"'), ('\\', '\\'), ('\n', 'n'), ('\r', 'r'), ('\t', 't')]

theorem mem_of_lookup {c d : Char} (h : shortEscapes.lookup c = some d) :
    (c, d) ∈ shortEscapes := by
  obtain ⟨before, after, hsplit, -⟩ := List.lookup_eq_some_iff.1 h
  rw [hsplit]
  exact List.mem_append_right before List.mem_cons_self

theorem ne_of_lookup_eq_none {c : Char} (h : shortEscapes.lookup c = none) :
    c ≠ '"' ∧ c ≠ '\\' ∧ c ≠ '\n' ∧ c ≠ '\r' ∧ c ≠ '\t' := by
  simpa [shortEscapes] using List.lookup_eq_none_iff.1 h

theorem escapeChar_of_mem {c d : Char} (h : (c, d) ∈ shortEscapes) :
    escapeChar c = ['\\', d] := by
  have key : ∀ p ∈ shortEscapes, escapeChar p.1 = ['\\', p.2] := by decide
  exact key _ h

theorem escapeChar_of_lookup_eq_none {c : Char} (h : shortEscapes.lookup c = none) :
    escapeChar c =
      if Unicode.isControl c then '\\' :: 'u' :: hexDigits4 c.toNat else [c] := by
  obtain ⟨hquote, hslash, hline, hreturn, htab⟩ := ne_of_lookup_eq_none h
  simp only [escapeChar, if_neg hquote, if_neg hslash, if_neg hline, if_neg hreturn,
    if_neg htab]

/-- The ways in which a character is escaped. -/
theorem escapeChar_cases (c : Char) :
    (∃ d, (c, d) ∈ shortEscapes ∧ escapeChar c = ['\\', d]) ∨
      (Unicode.isControl c = true ∧ escapeChar c = '\\' :: 'u' :: hexDigits4 c.toNat) ∨
      (c ≠ '"' ∧ c ≠ '\\' ∧ c ≠ '\n' ∧ escapeChar c = [c]) := by
  cases hlookup : shortEscapes.lookup c with
  | some d =>
    have hmem := mem_of_lookup hlookup
    exact Or.inl ⟨d, hmem, escapeChar_of_mem hmem⟩
  | none =>
    have hescape := escapeChar_of_lookup_eq_none hlookup
    by_cases hcontrol : Unicode.isControl c = true
    · rw [if_pos hcontrol] at hescape
      exact Or.inr (Or.inl ⟨hcontrol, hescape⟩)
    · rw [if_neg hcontrol] at hescape
      obtain ⟨hquote, hslash, hline, -, -⟩ := ne_of_lookup_eq_none hlookup
      exact Or.inr (Or.inr ⟨hquote, hslash, hline, hescape⟩)

theorem eq_of_mem_shortEscapes {c₁ c₂ d : Char} (h₁ : (c₁, d) ∈ shortEscapes)
    (h₂ : (c₂, d) ∈ shortEscapes) : c₁ = c₂ := by
  have key : ∀ p ∈ shortEscapes, ∀ q ∈ shortEscapes, p.2 = q.2 → p.1 = q.1 := by decide
  exact key _ h₁ _ h₂ rfl

theorem ne_u_of_mem_shortEscapes {c d : Char} (h : (c, d) ∈ shortEscapes) : d ≠ 'u' := by
  have key : ∀ p ∈ shortEscapes, p.2 ≠ 'u' := by decide
  exact key _ h

theorem toNat_lt_of_isControl {c : Char} (h : Unicode.isControl c = true) : c.toNat < 65536 := by
  obtain ⟨r, hr, -, hlast⟩ := Unicode.Ranges.contains_iff.1 h
  have key : ∀ r ∈ Unicode.control, r.2 < 65536 := by decide
  have := key r hr
  omega

/-- **No escaped form is the beginning of another one.** -/
theorem escapeChar_append_inj {c d : Char} {r s : List Char}
    (h : escapeChar c ++ r = escapeChar d ++ s) : c = d ∧ r = s := by
  obtain ⟨x, hx, hc⟩ | ⟨hcc, hc⟩ | ⟨-, hcs, -, hc⟩ := escapeChar_cases c <;>
  obtain ⟨y, hy, hd⟩ | ⟨hdc, hd⟩ | ⟨-, hds, -, hd⟩ := escapeChar_cases d <;>
  rw [hc, hd] at h <;>
  simp only [List.cons_append, List.nil_append, List.cons.injEq, true_and] at h
  · obtain ⟨rfl, rfl⟩ := h
    exact ⟨eq_of_mem_shortEscapes hx hy, rfl⟩
  · exact absurd h.1 (ne_u_of_mem_shortEscapes hx)
  · exact absurd h.1.symm hds
  · exact absurd h.1.symm (ne_u_of_mem_shortEscapes hy)
  · obtain ⟨hdigits, rfl⟩ := List.append_inj h rfl
    have hn := hexDigits4_injective (toNat_lt_of_isControl hcc) (toNat_lt_of_isControl hdc) hdigits
    exact ⟨Char.toNat_inj.1 hn, rfl⟩
  · exact absurd h.1.symm hds
  · exact absurd h.1 hcs
  · exact absurd h.1 hcs
  · exact h

theorem escapeChar_ne_nil (c : Char) : escapeChar c ≠ [] := by
  obtain ⟨x, -, hc⟩ | ⟨-, hc⟩ | ⟨-, -, -, hc⟩ := escapeChar_cases c <;> simp [hc]

theorem not_isControl_of_mem_escapeChar {c x : Char} (h : x ∈ escapeChar c) :
    Unicode.isControl x = false := by
  cases hlookup : shortEscapes.lookup c with
  | some d =>
    have hmem := mem_of_lookup hlookup
    have key : ∀ p ∈ shortEscapes, Unicode.isControl p.2 = false := by decide
    rw [escapeChar_of_mem hmem, List.mem_cons, List.mem_singleton] at h
    rcases h with rfl | rfl
    · decide
    · exact key _ hmem
  | none =>
    rw [escapeChar_of_lookup_eq_none hlookup] at h
    split at h
    · rw [List.mem_cons, List.mem_cons] at h
      rcases h with rfl | rfl | h
      · decide
      · decide
      · obtain ⟨i, hi, rfl⟩ := mem_hexDigits4 h
        have hdigit : ∀ i < 16, Unicode.isControl i.digitChar = false := by decide
        exact hdigit i hi
    · next hcontrol =>
      rw [List.mem_singleton.1 h]
      exact Bool.eq_false_iff.2 hcontrol

/-! ### Literals -/

/-- Characters can be read off their forms put together, if no form is empty or the beginning of
    another one. -/
theorem flatMap_injective {α β : Type} {form : α → List β} (hnil : ∀ a, form a ≠ [])
    (hform : ∀ a b r s, form a ++ r = form b ++ s → a = b ∧ r = s) {as bs : List α}
    (h : as.flatMap form = bs.flatMap form) : as = bs := by
  induction as generalizing bs with
  | nil =>
    cases bs with
    | nil => rfl
    | cons b bs => simp [hnil] at h
  | cons a as ih =>
    cases bs with
    | nil => simp [hnil] at h
    | cons b bs =>
      obtain ⟨rfl, hrest⟩ := hform a b _ _ h
      rw [ih hrest]

theorem flatMap_escapeChar_injective {cs ds : List Char}
    (h : cs.flatMap escapeChar = ds.flatMap escapeChar) : cs = ds :=
  flatMap_injective escapeChar_ne_nil (fun _ _ _ _ => escapeChar_append_inj) h

/-- **Different texts have different literals.** -/
theorem stringLiteral_injective {s t : String} (h : stringLiteral s = stringLiteral t) :
    s = t := by
  have hl := congrArg String.toList h
  rw [toList_stringLiteral, toList_stringLiteral, List.cons.injEq] at hl
  exact String.toList_inj.1 (flatMap_escapeChar_injective (List.append_cancel_right hl.2))

/-- **No literal holds a control character.** -/
theorem not_isControl_of_mem_stringLiteral {text : String} {c : Char}
    (h : c ∈ (stringLiteral text).toList) : Unicode.isControl c = false := by
  rw [toList_stringLiteral, List.mem_cons, List.mem_append, List.mem_flatMap,
    List.mem_singleton] at h
  obtain rfl | ⟨d, -, hc⟩ | rfl := h
  · decide
  · exact not_isControl_of_mem_escapeChar hc
  · decide

theorem newline_not_mem_stringLiteral (text : String) : '\n' ∉ (stringLiteral text).toList := by
  intro h
  exact absurd (not_isControl_of_mem_stringLiteral h) (by decide)

end ArgProcessor
