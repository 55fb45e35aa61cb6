import ForeignKeyLint.Text.Bytes
import Mathlib.Data.String.Basic
import Mathlib.Data.List.Basic

/-!
The order of strings and that of their bytes. Strings are compared by their characters. Main statement: this
is the order of their bytes in UTF-8, since longer encodings begin with greater bytes and the bytes of an
encoding hold the code point from its most significant bits on.
-/

namespace ForeignKeyLint.Text

/-- The bytes of the characters of a text, one character after the other. -/
def utf8 (text : List Char) : List UInt8 :=
  text.flatMap String.utf8EncodeChar

theorem bytes_eq_utf8 (text : String) : bytes text = utf8 text.toList := by
  rw [bytes, ← String.ofList_toList (s := text), String.toList_ofList, String.toUTF8_eq_toByteArray]
  exact List.toList_data_toByteArray

/-- Of two characters the one that comes first has the smaller bytes, whatever follows them. -/
theorem utf8EncodeChar_append_lt {c d : Char} (h : c < d) (after other : List UInt8) :
    String.utf8EncodeChar c ++ after < String.utf8EncodeChar d ++ other := by
  have hval : c.val.toNat < d.val.toNat := h
  have hbound : d.val.toNat < 0x110000 := by
    have hvalid : d.val.toNat.isValidChar := d.valid
    unfold Nat.isValidChar at hvalid
    omega
  -- Every byte but the first holds six bits.
  have hbits (n : Nat) : n / 4096 = n / 64 / 64 ∧ n / 262144 = n / 64 / 64 / 64 := by omega
  simp only [String.utf8EncodeChar, hbits]
  split_ifs <;>
    simp only [List.cons_append, List.nil_append, List.cons_lt_cons_iff, UInt8.lt_iff_toNat_lt,
      ← UInt8.toNat_inj, UInt8.toNat_ofNat'] <;>
    omega

theorem utf8_lt_utf8 {first second : List Char} (h : first < second) : utf8 first < utf8 second := by
  induction first generalizing second with
  | nil =>
    cases second with
    | nil => exact absurd h (List.not_lt_nil _)
    | cons d second =>
      have hbytes : String.utf8EncodeChar d ≠ [] := by
        rw [← List.length_pos_iff, String.length_utf8EncodeChar]
        exact d.utf8Size_pos
      obtain ⟨byte, bytes, hcons⟩ := List.exists_cons_of_ne_nil hbytes
      simp [utf8, hcons]
  | cons c first ih =>
    cases second with
    | nil => exact absurd h (List.not_lt_nil _)
    | cons d second =>
      rcases List.cons_lt_cons_iff.mp h with hchar | ⟨rfl, hrest⟩
      · exact utf8EncodeChar_append_lt hchar _ _
      · exact List.append_left_lt (ih hrest)

/-- Strings are in the order of their bytes. -/
theorem le_iff_bytes_le {a b : String} : a ≤ b ↔ bytes a ≤ bytes b := by
  rw [bytes_eq_utf8, bytes_eq_utf8]
  constructor
  · intro h
    rcases lt_or_eq_of_le h with hlt | rfl
    · exact List.le_of_lt (utf8_lt_utf8 (String.lt_iff_toList_lt.mp hlt))
    · exact List.le_refl _
  · intro h
    by_contra hgreater
    exact h (utf8_lt_utf8 (String.lt_iff_toList_lt.mp (not_le.mp hgreater)))

end ForeignKeyLint.Text
