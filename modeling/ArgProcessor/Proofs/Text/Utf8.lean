/-
  ArgProcessor/Proofs/Text/Utf8.lean
  ==================================
  **The UTF-8 form of a text, byte by byte.**

  The bytes of two texts put together are the bytes of the one and then of the other, a text has as
  many bytes as `utf8Length` says, and the byte of a line feed occurs in no other character
  (`count_lineFeed_utf8Bytes`).
-/
import ArgProcessor.Text.Bytes

namespace ArgProcessor

/-- The bytes of the UTF-8 form of a text. -/
def utf8Bytes (text : String) : List UInt8 := text.toUTF8.data.toList

theorem utf8Bytes_ofList (cs : List Char) :
    utf8Bytes (String.ofList cs) = cs.flatMap String.utf8EncodeChar := by
  rw [utf8Bytes, String.toUTF8_eq_toByteArray, String.toByteArray_ofList, List.utf8Encode,
    List.data_toByteArray]

theorem utf8Bytes_ofList_append (cs ds : List Char) :
    utf8Bytes (String.ofList (cs ++ ds)) =
      utf8Bytes (String.ofList cs) ++ utf8Bytes (String.ofList ds) := by
  simp only [utf8Bytes_ofList, List.flatMap_append]

theorem length_utf8Bytes_ofList (cs : List Char) :
    (utf8Bytes (String.ofList cs)).length = utf8Length cs := by
  rw [utf8Bytes_ofList]
  induction cs with
  | nil => rfl
  | cons c cs ih =>
    rw [List.flatMap_cons, List.length_append, String.length_utf8EncodeChar, ih, utf8Length]

/-! ### Line feeds -/

theorem ofNat_beq_lineFeed {n : Nat} (h : n < 256) : (UInt8.ofNat n == 10) = (n == 10) := by
  rw [Bool.eq_iff_iff, beq_iff_eq, beq_iff_eq, ← UInt8.toNat_inj, UInt8.toNat_ofNat_of_lt' h]
  rfl

theorem ofNat_beq_lineFeed_of_high {n : Nat} (hlow : 128 ≤ n) (h : n < 256) :
    (UInt8.ofNat n == 10) = false := by
  rw [ofNat_beq_lineFeed h]
  exact beq_false_of_ne (by omega)

theorem count_lineFeed_utf8EncodeChar (c : Char) :
    (String.utf8EncodeChar c).count 10 = if c = '\n' then 1 else 0 := by
  have hc : c = '\n' ↔ c.val.toNat = 10 := Char.toNat_inj.symm
  have hother : ¬c.val.toNat ≤ 0x7F → c ≠ '\n' := fun h e => h (by rw [hc.1 e]; decide)
  -- all bytes are at least 0x80 but those of ASCII characters
  fun_cases String.utf8EncodeChar c with
  | case1 v hascii =>
    rw [List.count_singleton, ofNat_beq_lineFeed (by omega)]
    simp only [beq_iff_eq, hc, v]
  | case2 v hascii _ =>
    rw [if_neg (hother hascii)]
    simp (disch := omega) only [List.count_cons, List.count_nil, ofNat_beq_lineFeed_of_high]
    rfl
  | case3 v hascii _ _ =>
    rw [if_neg (hother hascii)]
    simp (disch := omega) only [List.count_cons, List.count_nil, ofNat_beq_lineFeed_of_high]
    rfl
  | case4 v hascii _ _ =>
    rw [if_neg (hother hascii)]
    simp (disch := omega) only [List.count_cons, List.count_nil, ofNat_beq_lineFeed_of_high]
    rfl

theorem count_lineFeed_utf8Bytes (cs : List Char) :
    (utf8Bytes (String.ofList cs)).count 10 = cs.count '\n' := by
  rw [utf8Bytes_ofList]
  induction cs with
  | nil => rfl
  | cons c cs ih =>
    rw [List.flatMap_cons, List.count_append, count_lineFeed_utf8EncodeChar, ih, List.count_cons,
      Nat.add_comm]
    simp

theorem getLast?_utf8Bytes_of_lineFeed {cs : List Char} (h : cs.getLast? = some '\n') :
    (utf8Bytes (String.ofList cs)).getLast? = some 10 := by
  obtain ⟨ds, rfl⟩ := List.getLast?_eq_some_iff.1 h
  rw [utf8Bytes_ofList_append, List.getLast?_append]
  rfl

end ArgProcessor
