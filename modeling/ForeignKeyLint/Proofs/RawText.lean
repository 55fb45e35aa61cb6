import ForeignKeyLint.Proofs.Text.ByteOrder
import ForeignKeyLint.RawText

/-!
What bytes stand for. Main statements: bytes stand for a text exactly if they are its encoding, and a text is
shown as it is, so whatever is at fault in what is shown was no text.
-/

namespace ForeignKeyLint.RawText

open Text

theorem toByteArray_bytes_eq_iff (raw : RawText) (text : String) :
    raw.bytes.toByteArray = text.toUTF8 ↔ raw = ofText text := by
  constructor
  · intro h
    have hbytes : raw.bytes = text.toUTF8.data.toList := by
      rw [← h, List.toList_data_toByteArray]
    exact congrArg RawText.mk hbytes
  · rintro rfl
    apply ByteArray.ext
    apply Array.toList_inj.mp
    rw [List.toList_data_toByteArray]
    rfl

/-- Bytes stand for the text that they encode, and for no other. -/
theorem text?_eq_some_iff (raw : RawText) (text : String) : raw.text? = some text ↔ raw = ofText text := by
  rw [← toByteArray_bytes_eq_iff, text?, String.fromUTF8?]
  split
  · next hvalid =>
    rw [Option.some.injEq]
    constructor
    · rintro rfl
      rfl
    · intro h
      apply String.toByteArray_inj.mp
      exact h
  · next hinvalid =>
    refine iff_of_false (by simp) fun h => hinvalid ?_
    rw [h]
    exact text.isValidUTF8

theorem character?_utf8EncodeChar_append (c : Char) (rest : List UInt8) :
    character? (String.utf8EncodeChar c ++ rest) = some c := by
  have hlength : (String.utf8EncodeChar c).length ≤ 4 := by
    rw [String.length_utf8EncodeChar]
    exact c.utf8Size_le_four
  rw [character?, List.take_append, List.take_of_length_le hlength, List.toByteArray_append]
  exact ByteArray.utf8DecodeChar?_utf8EncodeChar_append

theorem shownFrom_length_append (skipped rest : List UInt8) :
    shownFrom skipped.length (skipped ++ rest) = shownFrom 0 rest := by
  induction skipped with
  | nil => rfl
  | cons byte skipped ih => exact ih

/-- A character in front is shown, and then what follows it. -/
theorem shownFrom_utf8EncodeChar_append (c : Char) (rest : List UInt8) :
    shownFrom 0 (String.utf8EncodeChar c ++ rest) = c :: shownFrom 0 rest := by
  have hcharacter := character?_utf8EncodeChar_append c rest
  have hlength := String.length_utf8EncodeChar c
  cases hbytes : String.utf8EncodeChar c with
  | nil =>
    rw [hbytes] at hlength
    exact absurd hlength.symm c.utf8Size_pos.ne'
  | cons first others =>
    rw [hbytes] at hcharacter hlength
    have hothers : c.utf8Size - 1 = others.length := by
      rw [← hlength, List.length_cons, Nat.add_sub_cancel]
    rw [List.cons_append] at hcharacter ⊢
    simp only [shownFrom, hcharacter, hothers, shownFrom_length_append]

theorem shownFrom_utf8 (text : List Char) : shownFrom 0 (utf8 text) = text := by
  induction text with
  | nil => rfl
  | cons c text ih =>
    have hcons : utf8 (c :: text) = String.utf8EncodeChar c ++ utf8 text := rfl
    rw [hcons, shownFrom_utf8EncodeChar_append, ih]

/-- A text is shown as it is. -/
theorem text_ofText (text : String) : (ofText text).text = text := by
  have hbytes : (ofText text).bytes = utf8 text.toList := bytes_eq_utf8 text
  rw [RawText.text, hbytes, shownFrom_utf8, String.ofList_toList]

end ForeignKeyLint.RawText
