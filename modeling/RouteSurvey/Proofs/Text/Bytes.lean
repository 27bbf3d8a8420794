import Mathlib.Data.List.Lex

/-! # Texts as bytes

The order of texts by their characters is the order of their bytes in UTF-8.
-/

namespace RouteSurvey.Text

/-- The bytes of a text in UTF-8. -/
def bytes (text : String) : List UInt8 :=
  text.toUTF8.data.toList

theorem bytes_eq_flatMap (text : String) :
    bytes text = text.toList.flatMap String.utf8EncodeChar := by
  conv_lhs => rw [← String.ofList_toList (s := text)]
  rw [bytes, String.toUTF8_eq_toByteArray, String.toByteArray_ofList, List.utf8Encode,
    List.toList_data_toByteArray]

theorem val_lt (c : Char) : c.val.toNat < 0x110000 := by
  have hvalid : c.val.toNat < 0xd800 ∨ 0xdfff < c.val.toNat ∧ c.val.toNat < 0x110000 := c.valid
  omega

/-- The first byte in which two characters differ decides, and no character is the beginning
of another. -/
theorem utf8EncodeChar_append_lt {c d : Char} (hlt : c < d) (rest others : List UInt8) :
    String.utf8EncodeChar c ++ rest < String.utf8EncodeChar d ++ others := by
  have hval : c.val.toNat < d.val.toNat := hlt
  have hbound := val_lt d
  -- A longer form begins with a greater byte, and in forms of one length the bytes are digits.
  have hdigits (n : Nat) : n / 4096 = n / 64 / 64 ∧ n / 262144 = n / 64 / 64 / 64 := by omega
  have hfirst : ∀ n m : Nat, n ≤ m → n / 64 < m / 64 ∨ n / 64 = m / 64 ∧ n % 64 ≤ m % 64 := by
    omega
  have hlow := hfirst _ _ hval.le
  have hmiddle := hfirst _ _ (Nat.div_le_div_right hval.le : c.val.toNat / 64 ≤ d.val.toNat / 64)
  have hhigh := hfirst (c.val.toNat / 64 / 64) (d.val.toNat / 64 / 64) (by omega)
  simp only [String.utf8EncodeChar, hdigits]
  split_ifs
  all_goals
    simp only [List.cons_append, List.nil_append, List.cons_lt_cons_iff, UInt8.lt_iff_toNat_lt,
      ← UInt8.toNat_inj, UInt8.toNat_ofNat']
    omega

theorem flatMap_utf8EncodeChar_lt {first second : List Char} (hlt : first < second) :
    first.flatMap String.utf8EncodeChar < second.flatMap String.utf8EncodeChar := by
  change List.Lex (· < ·) first second at hlt
  induction hlt with
  | @nil d others =>
      obtain ⟨byte, rest, hbytes⟩ := List.exists_cons_of_ne_nil
        (String.utf8EncodeChar_ne_nil (c := d))
      rw [List.flatMap_nil, List.flatMap_cons, hbytes, List.cons_append]
      exact List.nil_lt_cons _ _
  | rel hlt =>
      rw [List.flatMap_cons, List.flatMap_cons]
      exact utf8EncodeChar_append_lt hlt _ _
  | cons _ ih =>
      rw [List.flatMap_cons, List.flatMap_cons]
      exact List.append_left_lt ih

/-- Texts are in the order of their bytes. -/
theorem bytes_lt {first second : String} (hlt : first < second) : bytes first < bytes second := by
  rw [bytes_eq_flatMap, bytes_eq_flatMap]
  exact flatMap_utf8EncodeChar_lt (String.lt_iff.mp hlt)

end RouteSurvey.Text
