import Mathlib.Data.String.Basic

/-!
The order of texts and the order of their bytes. Texts compare character by character. In UTF-8 the
bytes of a smaller character compare smaller, so texts in increasing order have their bytes in
increasing order as well.
-/

namespace ShapeFlow.Text

/-- The bytes of a text in UTF-8. -/
def utf8Bytes (text : String) : List UInt8 :=
  text.toUTF8.data.toList

theorem utf8Bytes_ofList (characters : List Char) :
    utf8Bytes (.ofList characters) = characters.flatMap String.utf8EncodeChar := by
  rw [utf8Bytes, String.toUTF8_eq_toByteArray, String.toByteArray_ofList]
  induction characters with
  | nil => rw [List.utf8Encode_nil]; rfl
  | cons head rest ih =>
    rw [List.utf8Encode_cons, ByteArray.data_append, Array.toList_append, ih, List.flatMap_cons,
      List.utf8Encode_singleton, List.data_toByteArray, List.toList_toArray]

theorem bytes_lt_iff {low high : Nat} {rest others : List UInt8} (lowByte : low < 256)
    (highByte : high < 256) :
    UInt8.ofNat low :: rest < UInt8.ofNat high :: others ↔
      low < high ∨ low = high ∧ rest < others := by
  rw [List.cons_lt_cons_iff, UInt8.ofNat_lt_iff_lt lowByte highByte, ← UInt8.toNat_inj,
    UInt8.toNat_ofNat_of_lt' lowByte, UInt8.toNat_ofNat_of_lt' highByte]

/-- A smaller number has a smaller quotient, or the same quotient and a smaller last digit. -/
theorem digit_lt {low high : Nat} (below : low < high) :
    low / 64 < high / 64 ∨ low / 64 = high / 64 ∧ low % 64 < high % 64 := by
  omega

theorem codePoint_lt (character : Char) : character.val.toNat < 0x110000 := by
  rcases character.valid with low | ⟨-, high⟩
  · exact Nat.lt_trans low (by decide)
  · exact high

/-- The bytes of a smaller character compare smaller, whatever follows them. -/
theorem utf8EncodeChar_append_lt {lower upper : Char} (below : lower < upper)
    (rest others : List UInt8) :
    String.utf8EncodeChar lower ++ rest < String.utf8EncodeChar upper ++ others := by
  have ordered : lower.val.toNat < upper.val.toNat := below
  have bounded := codePoint_lt upper
  simp only [String.utf8EncodeChar]
  generalize lower.val.toNat = low at ordered
  generalize upper.val.toNat = high at ordered bounded
  -- Each byte behind the first holds a digit to the base 64, and digits compare from the front.
  have shifted (value : Nat) :
      value / 4096 = value / 64 / 64 ∧ value / 262144 = value / 64 / 64 / 64 := by omega
  have last := digit_lt ordered
  have third := @digit_lt (low / 64) (high / 64)
  have second := @digit_lt (low / 64 / 64) (high / 64 / 64)
  simp only [shifted]
  split_ifs <;>
    simp (disch := omega) only [List.cons_append, List.nil_append, bytes_lt_iff] <;> omega

theorem flatMap_utf8EncodeChar_lt {lower upper : List Char} (below : lower < upper) :
    lower.flatMap String.utf8EncodeChar < upper.flatMap String.utf8EncodeChar := by
  induction below with
  | @nil head rest =>
    obtain ⟨first, others, same⟩ :=
      List.exists_cons_of_ne_nil (String.utf8EncodeChar_ne_nil (c := head))
    rw [List.flatMap_nil, List.flatMap_cons, same]
    exact List.nil_lt_cons _ _
  | rel smaller =>
    rw [List.flatMap_cons, List.flatMap_cons]
    exact utf8EncodeChar_append_lt smaller _ _
  | cons _ ih =>
    rw [List.flatMap_cons, List.flatMap_cons]
    exact List.append_left_lt ih

/-- Texts and their bytes are ordered alike. -/
theorem utf8Bytes_lt {lower upper : String} (below : lower < upper) :
    utf8Bytes lower < utf8Bytes upper := by
  rw [← String.ofList_toList (s := lower), ← String.ofList_toList (s := upper),
    utf8Bytes_ofList, utf8Bytes_ofList]
  exact flatMap_utf8EncodeChar_lt (String.lt_iff_toList_lt.mp below)

end ShapeFlow.Text
