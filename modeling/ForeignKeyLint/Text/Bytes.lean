/-!
Byte measures of a text in UTF-8. Positions reported to a caller count bytes, while every reader
works on characters.
-/

namespace ForeignKeyLint.Text

/-- The bytes of a string in UTF-8. -/
def bytes (text : String) : List UInt8 :=
  text.toUTF8.data.toList

/-- The number of bytes of the text in UTF-8. -/
def byteLength : List Char → Nat
  | [] => 0
  | c :: rest => c.utf8Size + byteLength rest

@[simp]
theorem byteLength_append (first second : List Char) :
    byteLength (first ++ second) = byteLength first + byteLength second := by
  induction first with
  | nil => simp [byteLength]
  | cons c first ih => simp [byteLength, ih, Nat.add_assoc]

/-- Splits a text that starts at byte `offset` at the first character boundary at or after the
byte `target`. -/
def splitAtByte (offset target : Nat) : List Char → List Char × List Char
  | [] => ([], [])
  | c :: rest =>
    if offset < target then
      let (before, after) := splitAtByte (offset + c.utf8Size) target rest
      (c :: before, after)
    else ([], c :: rest)

theorem splitAtByte_append (offset target : Nat) (text : List Char) :
    (splitAtByte offset target text).1 ++ (splitAtByte offset target text).2 = text := by
  fun_induction splitAtByte offset target text <;> simp_all

theorem splitAtByte_byteLength (offset : Nat) (first second : List Char) :
    splitAtByte offset (offset + byteLength first) (first ++ second) = (first, second) := by
  induction first generalizing offset with
  | nil =>
    cases second with
    | nil => rfl
    | cons c second => simp [splitAtByte, byteLength]
  | cons c first ih =>
    have hsize : 0 < c.utf8Size := c.utf8Size_pos
    have hsum : offset + byteLength (c :: first) = offset + c.utf8Size + byteLength first := by
      rw [byteLength]
      omega
    rw [List.cons_append, splitAtByte, hsum, if_pos (by omega), ih]

theorem length_splitAtByte_le (offset target : Nat) (text : List Char) :
    (splitAtByte offset target text).2.length ≤ text.length := by
  have h := congrArg List.length (splitAtByte_append offset target text)
  simp only [List.length_append] at h
  omega

end ForeignKeyLint.Text
