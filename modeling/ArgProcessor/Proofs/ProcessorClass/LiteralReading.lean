/-
  ArgProcessor/Proofs/ProcessorClass/LiteralReading.lean
  ======================================================
  **A string literal is read back as the text that it stands for.**

  The text of a class is read in two steps.  First its Unicode escapes are translated
  (`translate`): a backslash, one `u` or more and four hexadecimal digits, where an even number of
  backslashes stands right before the escape.  What comes out is code units, since an escape may
  be half of a surrogate pair.  Then a literal is read up to the first quote that is not part of a
  short escape (`readLiteral`); no line may end in it.

  Every escaped character leaves an even number of backslashes behind it, and a backslash that it
  starts with is followed by `u` only if it was written for a control character.  So it is
  translated on its own, whatever comes after it (`translateFrom_escapeChar`), and read back as
  the character (`readBody_translated`).
-/
import ArgProcessor.Proofs.ProcessorClass.Literal
import Mathlib.Data.List.Basic

namespace ArgProcessor

/-! ### Code units -/

/-- The UTF-16 code units of a character. -/
def utf16Units (c : Char) : List Nat :=
  if c.toNat < 0x10000 then [c.toNat]
  else [0xD800 + (c.toNat - 0x10000) / 0x400, 0xDC00 + (c.toNat - 0x10000) % 0x400]

def utf16 (text : String) : List Nat := text.toList.flatMap utf16Units

theorem utf16Units_ne_nil (c : Char) : utf16Units c ≠ [] := by
  unfold utf16Units
  split <;> exact List.cons_ne_nil _ _

theorem mem_utf16Units {c : Char} {u : Nat} (h : u ∈ utf16Units c) :
    u = c.toNat ∨ 0xD800 ≤ u := by
  unfold utf16Units at h
  split at h
  · exact Or.inl (List.mem_singleton.1 h)
  · -- both are surrogates
    simp only [List.mem_cons, List.not_mem_nil, or_false] at h
    omega

/-- **No character's code units are the beginning of another one's.** -/
theorem utf16Units_append_inj {c d : Char} {r s : List Nat}
    (h : utf16Units c ++ r = utf16Units d ++ s) : c = d ∧ r = s := by
  -- a code point is not a surrogate
  have hc : c.toNat < 0xD800 ∨ 0xDFFF < c.toNat ∧ c.toNat < 0x110000 := c.valid
  have hd : d.toNat < 0xD800 ∨ 0xDFFF < d.toNat ∧ d.toNat < 0x110000 := d.valid
  unfold utf16Units at h
  rw [← Char.toNat_inj]
  split at h <;> split at h <;>
    simp only [List.cons_append, List.nil_append, List.cons.injEq] at h
  · exact h
  · omega
  · omega
  · obtain ⟨hhigh, hlow, hrest⟩ := h
    exact ⟨by omega, hrest⟩

theorem utf16_injective {s t : String} (h : utf16 s = utf16 t) : s = t :=
  String.toList_inj.1
    (flatMap_injective utf16Units_ne_nil (fun _ _ _ _ => utf16Units_append_inj) h)

/-! ### Unicode escapes -/

def hexValue? (c : Char) : Option Nat :=
  if '0' ≤ c ∧ c ≤ '9' then some (c.toNat - '0'.toNat)
  else if 'a' ≤ c ∧ c ≤ 'f' then some (c.toNat - 'a'.toNat + 10)
  else if 'A' ≤ c ∧ c ≤ 'F' then some (c.toNat - 'A'.toNat + 10)
  else none

def hexUnit? : List Char → Option Nat
  | c₃ :: c₂ :: c₁ :: c₀ :: _ => do
    let d₃ ← hexValue? c₃
    let d₂ ← hexValue? c₂
    let d₁ ← hexValue? c₁
    let d₀ ← hexValue? c₀
    return d₃ * 4096 + d₂ * 256 + d₁ * 16 + d₀
  | _ => none

/-- The code unit of a Unicode escape, from the text after its backslash, and the number of
    characters that the escape takes there.  The letter `u` may be repeated; where the four digits
    are missing, there is no escape. -/
def unicodeEscape? : List Char → Option (Nat × Nat)
  | 'u' :: cs =>
    match hexUnit? cs with
    | some unit => some (unit, 5)
    | none => (unicodeEscape? cs).map fun (unit, length) => (unit, length + 1)
  | _ => none

/-- The Unicode escape that starts at `c`, if one does: `cs` is the text after `c`, and `run` is
    the number of backslashes right before it. -/
def escapeAt? (run : Nat) (c : Char) (cs : List Char) : Option (Nat × Nat) :=
  if c = '\\' ∧ run % 2 = 0 then unicodeEscape? cs else none

/-- The code units of a text whose first `skip` characters belong to an escape already
    translated. -/
def translateFrom : Nat → Nat → List Char → List Nat
  | _, _, [] => []
  | _, skip + 1, _ :: cs => translateFrom 0 skip cs
  | run, 0, c :: cs =>
    match escapeAt? run c cs with
    | some (unit, length) => unit :: translateFrom 0 length cs
    | none => utf16Units c ++ translateFrom (if c = '\\' then run + 1 else 0) 0 cs

/-- The code units of a text whose Unicode escapes are translated. -/
def translate (text : String) : List Nat := translateFrom 0 0 text.toList

theorem hexValue?_digitChar : ∀ d < 16, hexValue? d.digitChar = some d := by decide

theorem hexUnit?_hexDigits4 {n : Nat} (h : n < 65536) (cs : List Char) :
    hexUnit? (hexDigits4 n ++ cs) = some n := by
  have hdigit : ∀ i, hexValue? (i % 16).digitChar = some (i % 16) := fun i =>
    hexValue?_digitChar _ (Nat.mod_lt i (by decide))
  simp only [hexDigits4, List.cons_append, hexUnit?, hdigit]
  simp only [Option.bind_eq_bind, Option.bind_some, Option.pure_def, Option.some.injEq]
  omega

theorem unicodeEscape?_hexDigits4 {n : Nat} (h : n < 65536) (cs : List Char) :
    unicodeEscape? ('u' :: (hexDigits4 n ++ cs)) = some (n, 5) := by
  rw [unicodeEscape?, hexUnit?_hexDigits4 h]

theorem unicodeEscape?_cons_of_ne {c : Char} (h : c ≠ 'u') (cs : List Char) :
    unicodeEscape? (c :: cs) = none := by
  unfold unicodeEscape?
  split
  · next heq => exact absurd (List.cons.inj heq).1 h
  · rfl

theorem escapeAt?_of_ne {c : Char} (h : c ≠ '\\') (run : Nat) (cs : List Char) :
    escapeAt? run c cs = none :=
  if_neg fun hc => h hc.1

/-- **Only the parity of the backslashes before a text matters.** -/
theorem translateFrom_add_two (run skip : Nat) (cs : List Char) :
    translateFrom (run + 2) skip cs = translateFrom run skip cs := by
  induction cs generalizing run skip with
  | nil => simp only [translateFrom]
  | cons c cs ih =>
    cases skip with
    | succ skip => simp only [translateFrom]
    | zero =>
      have hescape : escapeAt? (run + 2) c cs = escapeAt? run c cs := by
        simp only [escapeAt?, Nat.add_mod_right]
      -- a backslash is counted on both sides; after anything else both start again from 0
      have hrun : translateFrom (if c = '\\' then run + 2 + 1 else 0) 0 cs =
          translateFrom (if c = '\\' then run + 1 else 0) 0 cs := by
        split
        · exact ih (run + 1) 0
        · rfl
      rw [translateFrom, translateFrom, hescape, hrun]

/-- After two backslashes an escape is translated, after one it is not. -/
example : translate "\\\\\\u0041" = utf16 "\\\\A" ∧ translate "\\\\u0041" = utf16 "\\\\u0041" := by
  decide

theorem translateFrom_cons_of_ne {c : Char} (h : c ≠ '\\') (run : Nat) (cs : List Char) :
    translateFrom run 0 (c :: cs) = utf16Units c ++ translateFrom 0 0 cs := by
  rw [translateFrom, escapeAt?_of_ne h, if_neg h]

theorem translateFrom_backslash {c : Char} (h : c ≠ 'u') (cs : List Char) :
    translateFrom 0 0 ('\\' :: c :: cs) =
      '\\'.toNat :: (utf16Units c ++ translateFrom 0 0 cs) := by
  have hescape : escapeAt? 0 '\\' (c :: cs) = none := by
    rw [escapeAt?, if_pos ⟨rfl, rfl⟩, unicodeEscape?_cons_of_ne h]
  have hunits : utf16Units '\\' = ['\\'.toNat] := by decide
  have hnext : translateFrom 1 0 (c :: cs) = utf16Units c ++ translateFrom 0 0 cs := by
    by_cases hslash : c = '\\'
    · -- one backslash stands before it, so it starts no escape, and two leave the parity
      rw [translateFrom, escapeAt?, if_neg fun hc => Nat.one_ne_zero hc.2, if_pos hslash,
        translateFrom_add_two]
    · exact translateFrom_cons_of_ne hslash 1 cs
  rw [translateFrom, hescape, if_pos rfl, hunits, hnext]
  rfl

theorem translateFrom_control {n : Nat} (h : n < 65536) (cs : List Char) :
    translateFrom 0 0 ('\\' :: 'u' :: (hexDigits4 n ++ cs)) = n :: translateFrom 0 0 cs := by
  have hescape : escapeAt? 0 '\\' ('u' :: (hexDigits4 n ++ cs)) = some (n, 5) := by
    rw [escapeAt?, if_pos ⟨rfl, rfl⟩, unicodeEscape?_hexDigits4 h]
  rw [translateFrom, hescape]
  rfl

/-! ### Escaped characters -/

/-- What the escaped form of a character is translated to.  Only the code point of a control
    character is translated; every other form is left as it is written. -/
def translated (c : Char) : List Nat :=
  if Unicode.isControl c ∧ shortEscapes.lookup c = none then [c.toNat]
  else (escapeChar c).flatMap utf16Units

theorem translated_of_lookup {c d : Char} (h : shortEscapes.lookup c = some d) :
    translated c = ['\\'.toNat, d.toNat] := by
  have key : ∀ p ∈ shortEscapes, ['\\', p.2].flatMap utf16Units = ['\\'.toNat, p.2.toNat] := by
    decide
  have hmem := mem_of_lookup h
  have hlookup : shortEscapes.lookup c ≠ none := by simp [h]
  rw [translated, if_neg fun hc => hlookup hc.2, escapeChar_of_mem hmem]
  exact key _ hmem

theorem translated_of_lookup_eq_none {c : Char} (h : shortEscapes.lookup c = none) :
    translated c = utf16Units c := by
  rw [translated, escapeChar_of_lookup_eq_none h]
  by_cases hcontrol : Unicode.isControl c = true
  · rw [if_pos ⟨hcontrol, h⟩]
    exact (if_pos (toNat_lt_of_isControl hcontrol)).symm
  · rw [if_neg fun hc => hcontrol hc.1, if_neg hcontrol]
    exact List.flatMap_singleton utf16Units c

/-- **An escaped character is translated on its own, whatever follows it.** -/
theorem translateFrom_escapeChar (c : Char) (cs : List Char) :
    translateFrom 0 0 (escapeChar c ++ cs) = translated c ++ translateFrom 0 0 cs := by
  cases hlookup : shortEscapes.lookup c with
  | some d =>
    have hmem := mem_of_lookup hlookup
    have key : ∀ p ∈ shortEscapes, utf16Units p.2 = [p.2.toNat] := by decide
    have hslash := translateFrom_backslash (ne_u_of_mem_shortEscapes hmem) cs
    rw [key _ hmem] at hslash
    rw [escapeChar_of_mem hmem, translated_of_lookup hlookup]
    exact hslash
  | none =>
    rw [escapeChar_of_lookup_eq_none hlookup, translated_of_lookup_eq_none hlookup]
    by_cases hcontrol : Unicode.isControl c = true
    · have hcode := toNat_lt_of_isControl hcontrol
      rw [if_pos hcontrol, utf16Units, if_pos hcode]
      exact translateFrom_control hcode cs
    · rw [if_neg hcontrol]
      obtain ⟨-, hslash, -⟩ := ne_of_lookup_eq_none hlookup
      exact translateFrom_cons_of_ne hslash 0 cs

theorem translateFrom_flatMap (cs rest : List Char) :
    translateFrom 0 0 (cs.flatMap escapeChar ++ rest) =
      cs.flatMap translated ++ translateFrom 0 0 rest := by
  induction cs with
  | nil => rfl
  | cons c cs ih =>
    simp only [List.flatMap_cons, List.append_assoc]
    rw [translateFrom_escapeChar, ih]

/-! ### Literals -/

/-- The character of which a short escape ends in the code unit `u`. -/
def unescape? (u : Nat) : Option Char :=
  (shortEscapes.find? fun p => p.2.toNat == u).map Prod.fst

/-- The code units of a literal after its opening quote: those it stands for, and those after its
    closing quote.  `escaped` tells that a backslash has just been read. -/
def readBody : Bool → List Nat → Option (List Nat × List Nat)
  | _, [] => none
  | true, u :: us =>
    (unescape? u).bind fun c => (readBody false us).map (Prod.map (utf16Units c ++ ·) id)
  | false, u :: us =>
    if u = '"'.toNat then some ([], us)
    else if u = '\\'.toNat then readBody true us
    else if u = '\n'.toNat ∨ u = '\r'.toNat then none
    else (readBody false us).map (Prod.map (u :: ·) id)

/-- Reads a string literal at the start of a text.  Text blocks are not read. -/
def readLiteral : List Nat → Option (List Nat × List Nat)
  | [] => none
  | u :: us => if u = '"'.toNat then readBody false us else none

theorem unescape?_of_mem {c d : Char} (h : (c, d) ∈ shortEscapes) :
    unescape? d.toNat = some c := by
  have key : ∀ p ∈ shortEscapes, unescape? p.2.toNat = some p.1 := by decide
  exact key _ h

theorem readBody_append {us : List Nat}
    (h : ∀ u ∈ us, u ≠ '"'.toNat ∧ u ≠ '\\'.toNat ∧ u ≠ '\n'.toNat ∧ u ≠ '\r'.toNat)
    (vs : List Nat) :
    readBody false (us ++ vs) = (readBody false vs).map (Prod.map (us ++ ·) id) := by
  induction us with
  | nil =>
    rw [List.nil_append]
    cases readBody false vs <;> rfl
  | cons u us ih =>
    rw [List.forall_mem_cons] at h
    obtain ⟨⟨hquote, hslash, hline, hreturn⟩, hus⟩ := h
    have hend := not_or.2 ⟨hline, hreturn⟩
    rw [List.cons_append, readBody, if_neg hquote, if_neg hslash, if_neg hend, ih hus]
    cases readBody false vs <;> rfl

/-- **An escaped character is read back as itself.** -/
theorem readBody_translated (c : Char) (us : List Nat) :
    readBody false (translated c ++ us) =
      (readBody false us).map (Prod.map (utf16Units c ++ ·) id) := by
  cases hlookup : shortEscapes.lookup c with
  | some d =>
    have hread := unescape?_of_mem (mem_of_lookup hlookup)
    have hquote : '\\'.toNat ≠ '"'.toNat := by decide
    rw [translated_of_lookup hlookup]
    simp only [List.cons_append, List.nil_append]
    rw [readBody, if_neg hquote, if_pos rfl, readBody, hread, Option.bind_some]
  | none =>
    -- surrogates are none of the four code units that are read otherwise
    rw [translated_of_lookup_eq_none hlookup]
    apply readBody_append
    intro u hu
    obtain ⟨hquote, hslash, hline, hreturn, -⟩ := ne_of_lookup_eq_none hlookup
    simp only [ne_eq, ← Char.toNat_inj] at hquote hslash hline hreturn
    rcases mem_utf16Units hu with rfl | hu
    · exact ⟨hquote, hslash, hline, hreturn⟩
    · have hascii : '"'.toNat = 34 ∧ '\\'.toNat = 92 ∧ '\n'.toNat = 10 ∧ '\r'.toNat = 13 := by
        decide
      omega

theorem readBody_flatMap (cs : List Char) (rest : List Nat) :
    readBody false (cs.flatMap translated ++ '"'.toNat :: rest) =
      some (cs.flatMap utf16Units, rest) := by
  induction cs with
  | nil => rfl
  | cons c cs ih =>
    simp only [List.flatMap_cons, List.append_assoc]
    rw [readBody_translated, ih]
    rfl

theorem translate_stringLiteral_append (s rest : String) :
    translate (stringLiteral s ++ rest) =
      '"'.toNat :: (s.toList.flatMap translated ++ '"'.toNat :: translate rest) := by
  have hquote : ∀ cs, translateFrom 0 0 ('"' :: cs) = '"'.toNat :: translateFrom 0 0 cs :=
    translateFrom_cons_of_ne (by decide) 0
  rw [translate, String.toList_append, toList_stringLiteral]
  simp only [List.cons_append, List.append_assoc, List.nil_append]
  rw [hquote, translateFrom_flatMap, hquote]
  rfl

theorem translate_stringLiteral (s : String) :
    translate (stringLiteral s) = '"'.toNat :: (s.toList.flatMap translated ++ ['"'.toNat]) := by
  have h := translate_stringLiteral_append s ""
  rwa [String.append_empty] at h

/-- **A string literal ends at its last character and is read as its text, whatever follows.**
    The code units that are read tell the text, and nothing in a literal is translated but the code
    points of control characters. -/
theorem readLiteral_stringLiteral (s : String) :
    (∀ rest : String,
      readLiteral (translate (stringLiteral s ++ rest)) = some (utf16 s, translate rest) ∧
      translate (stringLiteral s ++ rest) = translate (stringLiteral s) ++ translate rest) ∧
    (∀ t, utf16 t = utf16 s ↔ t = s) ∧
    (∀ c ∈ (stringLiteral s).toList, Unicode.isControl c = false) ∧
    translate (stringLiteral s) = '"'.toNat :: (s.toList.flatMap translated ++ ['"'.toNat]) ∧
    ∀ t, stringLiteral t = stringLiteral s ↔ t = s := by
  refine ⟨?_, ?_, ?_, ?_, ?_⟩
  · intro rest
    constructor
    · rw [translate_stringLiteral_append, readLiteral, if_pos rfl]
      exact readBody_flatMap s.toList (translate rest)
    · rw [translate_stringLiteral_append, translate_stringLiteral]
      simp only [List.cons_append, List.append_assoc, List.nil_append]
  · intro t
    exact ⟨utf16_injective, congrArg utf16⟩
  · intro c hc
    exact not_isControl_of_mem_stringLiteral hc
  · exact translate_stringLiteral s
  · intro t
    exact ⟨stringLiteral_injective, congrArg stringLiteral⟩

/-- A text that looks like an escape and ends in a quote, before an escape that stands for a
    quote. -/
theorem readLiteral_stringLiteral_typed_escape :
    stringLiteral "\\u0041\"" = "\"\\\\u0041\\\"\"" ∧
    readLiteral (translate (stringLiteral "\\u0041\"" ++ "\\uu0022;")) =
      some (utf16 "\\u0041\"", ['"'.toNat, ';'.toNat]) ∧
    translate (stringLiteral "\\u0041\"") = utf16 (stringLiteral "\\u0041\"") := by
  obtain ⟨hread, -, -, htranslate, -⟩ := readLiteral_stringLiteral "\\u0041\""
  exact ⟨by decide, (hread "\\uu0022;").1, htranslate.trans (by decide)⟩

end ArgProcessor
