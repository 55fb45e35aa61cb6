import ForeignKeyLint.Text.Bytes
import Mathlib.Data.List.Basic

/-!
Slices of a text by byte offsets. A slice exists only between character boundaries of the text, so a
reader that cuts at an offset it has added up itself may ask for one that does not exist. Main
statements: what a slice holds, and that it exists exactly at boundaries.
-/

namespace ForeignKeyLint.Text

variable {text rest : List Char} {offset target : Nat} {c : Char}

/-- A character begins at this byte, or the text ends there. -/
def IsBoundary (text : List Char) (offset : Nat) : Prop :=
  ∃ before after, text = before ++ after ∧ byteLength before = offset

/-- The character stands at this byte. -/
def StandsAt (text : List Char) (offset : Nat) (c : Char) : Prop :=
  ∃ before after, text = before ++ c :: after ∧ byteLength before = offset

/-- Divides a text at a byte. There is no such division past the end or inside a character. -/
def divideAtByte? : (offset : Nat) → List Char → Option (List Char × List Char)
  | 0, text => some ([], text)
  | _ + 1, [] => none
  | offset + 1, c :: rest =>
    if c.utf8Size ≤ offset + 1 then
      (divideAtByte? (offset + 1 - c.utf8Size) rest).map fun (before, after) => (c :: before, after)
    else none

/-- The slice from a byte to the end. -/
def fromByte? (start : Nat) (text : List Char) : Option (List Char) :=
  (divideAtByte? start text).map Prod.snd

/-- The slice from one byte to another, which may not come before it. -/
def slice? (start stop : Nat) (text : List Char) : Option (List Char) := do
  let after ← fromByte? start text
  if start ≤ stop then (divideAtByte? (stop - start) after).map Prod.fst else none

/-- The characters of a text that starts at byte `offset`, each with its own byte. -/
def charIndicesFrom : (offset : Nat) → List Char → List (Nat × Char)
  | _, [] => []
  | offset, c :: rest => (offset, c) :: charIndicesFrom (offset + c.utf8Size) rest

def charIndices (text : List Char) : List (Nat × Char) :=
  charIndicesFrom 0 text

theorem divideAtByte?_byteLength (before after : List Char) :
    divideAtByte? (byteLength before) (before ++ after) = some (before, after) := by
  induction before with
  | nil => cases after <;> rfl
  | cons c before ih =>
    obtain ⟨size, hsize⟩ := Nat.exists_eq_succ_of_ne_zero (Nat.ne_of_gt c.utf8Size_pos)
    have hlength : byteLength (c :: before) = size + byteLength before + 1 := by
      simp only [byteLength, hsize]
      omega
    have hleft : size + byteLength before + 1 - c.utf8Size = byteLength before := by omega
    rw [hlength, List.cons_append, divideAtByte?, if_pos (by omega), hleft, ih]
    rfl

theorem append_of_divideAtByte? {before after : List Char}
    (h : divideAtByte? offset text = some (before, after)) :
    text = before ++ after ∧ byteLength before = offset := by
  fun_induction divideAtByte? offset text generalizing before with
  | case1 text =>
    obtain ⟨rfl, rfl⟩ := Prod.mk.inj (Option.some.inj h)
    exact ⟨rfl, rfl⟩
  | case2 => contradiction
  | case3 offset c rest hfits ih =>
    obtain ⟨⟨lead, tail⟩, hdivided, hpair⟩ := Option.map_eq_some_iff.mp h
    obtain ⟨rfl, rfl⟩ := Prod.mk.inj hpair
    obtain ⟨rfl, hlead⟩ := ih hdivided
    refine ⟨rfl, ?_⟩
    rw [byteLength, hlead]
    omega
  | case4 => contradiction

theorem fromByte?_eq_some_iff :
    fromByte? offset text = some rest ↔
      ∃ before, text = before ++ rest ∧ byteLength before = offset := by
  constructor
  · intro h
    obtain ⟨⟨before, after⟩, hdivided, rfl⟩ := Option.map_eq_some_iff.mp h
    exact ⟨before, append_of_divideAtByte? hdivided⟩
  · rintro ⟨before, rfl, rfl⟩
    rw [fromByte?, divideAtByte?_byteLength]
    rfl

/-- There is a slice from a byte on exactly if the byte is a boundary. -/
theorem isSome_fromByte?_iff : (fromByte? offset text).isSome = true ↔ IsBoundary text offset := by
  rw [Option.isSome_iff_exists]
  constructor
  · rintro ⟨rest, h⟩
    obtain ⟨before, hsplit⟩ := fromByte?_eq_some_iff.mp h
    exact ⟨before, rest, hsplit⟩
  · rintro ⟨before, rest, hsplit⟩
    exact ⟨rest, fromByte?_eq_some_iff.mpr ⟨before, hsplit⟩⟩

example : fromByte? 2 "€5".toList = none ∧ fromByte? 3 "€5".toList = some ['5'] := by decide

theorem fromByte?_zero (text : List Char) : fromByte? 0 text = some text :=
  fromByte?_eq_some_iff.mpr ⟨[], rfl, rfl⟩

theorem byteLength_of_fromByte? (h : fromByte? offset text = some rest) :
    byteLength text = offset + byteLength rest := by
  obtain ⟨before, rfl, rfl⟩ := fromByte?_eq_some_iff.mp h
  exact byteLength_append before rest

/-- The slice that starts that many bytes further on. -/
theorem fromByte?_add {lead : List Char} (h : fromByte? offset text = some (lead ++ rest)) :
    fromByte? (offset + byteLength lead) text = some rest := by
  obtain ⟨before, rfl, rfl⟩ := fromByte?_eq_some_iff.mp h
  exact fromByte?_eq_some_iff.mpr ⟨before ++ lead, by simp, byteLength_append before lead⟩

theorem fromByte?_cons (h : fromByte? offset text = some (c :: rest)) :
    fromByte? (offset + c.utf8Size) text = some rest := by
  have hlead : fromByte? offset text = some ([c] ++ rest) := h
  exact fromByte?_add hlead

/-- The slice that ends that many bytes further on. -/
theorem slice?_add {middle : List Char} (h : fromByte? offset text = some (middle ++ rest)) :
    slice? offset (offset + byteLength middle) text = some middle := by
  simp [slice?, h, divideAtByte?_byteLength]

/-- A reader stands at byte `offset`, before `rest`, and has passed `passed` since byte `start`. -/
structure Passed (text : List Char) (start : Nat) (passed : List Char) (offset : Nat)
    (rest : List Char) : Prop where
  from_start : fromByte? start text = some (passed ++ rest)
  offset_eq : start + byteLength passed = offset

namespace Passed

variable {passed more : List Char} {start : Nat}

theorem nothing (h : fromByte? offset text = some rest) : Passed text offset [] offset rest where
  from_start := h
  offset_eq := rfl

theorem here (h : Passed text start passed offset rest) : fromByte? offset text = some rest :=
  h.offset_eq ▸ fromByte?_add h.from_start

theorem slice (h : Passed text start passed offset rest) : slice? start offset text = some passed :=
  h.offset_eq ▸ slice?_add h.from_start

theorem append (h : Passed text start passed offset (more ++ rest)) :
    Passed text start (passed ++ more) (offset + byteLength more) rest where
  from_start := by rw [List.append_assoc, h.from_start]
  offset_eq := by rw [byteLength_append, ← Nat.add_assoc, h.offset_eq]

theorem cons (h : Passed text start passed offset (c :: rest)) :
    Passed text start (passed ++ [c]) (offset + c.utf8Size) rest :=
  have hmore : Passed text start passed offset ([c] ++ rest) := h
  hmore.append

theorem cons_append (h : Passed text start passed offset (c :: (more ++ rest))) :
    Passed text start (passed ++ c :: more) (offset + c.utf8Size + byteLength more) rest := by
  have hmore : Passed text start passed offset (c :: more ++ rest) := h
  rw [Nat.add_assoc]
  exact hmore.append

end Passed

/-- A text in ASCII has as many bytes as characters. -/
theorem byteLength_eq_length (h : ∀ c ∈ text, c.toNat < 128) : byteLength text = text.length := by
  induction text with
  | nil => rfl
  | cons c text ih =>
    have hsize : c.utf8Size = 1 :=
      Char.utf8Size_eq_one_iff.mpr (UInt32.le_iff_toNat_le.mpr (Nat.le_of_lt_succ (h c List.mem_cons_self)))
    rw [byteLength, hsize, ih fun d hd => h d (List.mem_cons_of_mem c hd), List.length_cons, Nat.add_comm]

theorem isBoundary_of_fromByte? (h : fromByte? offset text = some rest) : IsBoundary text offset :=
  isSome_fromByte?_iff.mp (by rw [h]; rfl)

theorem standsAt_of_fromByte? (h : fromByte? offset text = some (c :: rest)) :
    StandsAt text offset c := by
  obtain ⟨before, rfl, rfl⟩ := fromByte?_eq_some_iff.mp h
  exact ⟨before, rest, rfl, rfl⟩

/-- A boundary that does not come before a slice divides the slice. -/
theorem exists_append_of_isBoundary (h : fromByte? offset text = some rest)
    (htarget : IsBoundary text target) (hle : offset ≤ target) :
    ∃ skipped after, rest = skipped ++ after ∧ offset + byteLength skipped = target := by
  obtain ⟨before, rfl, rfl⟩ := fromByte?_eq_some_iff.mp h
  obtain ⟨lead, after, hsplit, rfl⟩ := htarget
  rcases List.append_eq_append_iff.mp hsplit with ⟨skipped, rfl, rfl⟩ | ⟨back, rfl, rfl⟩
  · exact ⟨skipped, after, rfl, by simp⟩
  · have hback : byteLength back = 0 := by
      rw [byteLength_append] at hle
      omega
    exact ⟨[], rest, rfl, by simp [hback, byteLength]⟩

theorem splitAtByte_of_le (h : target ≤ offset) : splitAtByte offset target text = ([], text) := by
  cases text with
  | nil => rfl
  | cons c rest => rw [splitAtByte, if_neg (Nat.not_lt.mpr h)]

theorem splitAtByte_of_ge (h : offset + byteLength text ≤ target) :
    splitAtByte offset target text = (text, []) := by
  induction text generalizing offset with
  | nil => rfl
  | cons c rest ih =>
    rw [byteLength, ← Nat.add_assoc] at h
    have hsize := c.utf8Size_pos
    rw [splitAtByte, if_pos (by omega), ih h]

/-- Where a jump comes down whose target is a boundary or past the end of the text: at the target, but
not before the place it starts from and not past the end. -/
theorem byteLength_splitAtByte (h : fromByte? offset text = some rest)
    (htarget : IsBoundary text target ∨ byteLength text ≤ target) :
    offset + byteLength (splitAtByte offset target rest).1 =
      min (max target offset) (byteLength text) := by
  have htotal := byteLength_of_fromByte? h
  rcases Nat.lt_or_ge offset target with hlater | hearlier
  · rcases htarget with hboundary | hpast
    · obtain ⟨skipped, after, rfl, rfl⟩ := exists_append_of_isBoundary h hboundary (Nat.le_of_lt hlater)
      simp only [splitAtByte_byteLength, byteLength_append] at htotal ⊢
      omega
    · have hrest : splitAtByte offset target rest = (rest, []) := splitAtByte_of_ge (by omega)
      simp only [hrest]
      omega
  · rw [splitAtByte_of_le hearlier, byteLength]
    omega

end ForeignKeyLint.Text
