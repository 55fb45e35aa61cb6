import ForeignKeyLint.Text.Bytes

/-!
Text as the system has it. The name of a file is a row of bytes that are meant to be UTF-8 and need not be. It
stands for a text only if its bytes are those of one. It can always be shown: whatever in it begins no character
is shown as a replacement character, and bytes that begin one together count as a single fault.
-/

namespace ForeignKeyLint

@[ext]
structure RawText where
  bytes : List UInt8
deriving Repr, DecidableEq, Inhabited

namespace RawText

/-- A text as its bytes in UTF-8. -/
def ofText (text : String) : RawText :=
  ⟨Text.bytes text⟩

instance : Coe String RawText :=
  ⟨ofText⟩

def isEmpty (raw : RawText) : Bool :=
  raw.bytes.isEmpty

/-- The text that has these bytes. -/
def text? (raw : RawText) : Option String :=
  String.fromUTF8? raw.bytes.toByteArray

/-- The character that the bytes begin with. -/
def character? (bytes : List UInt8) : Option Char :=
  (bytes.take 4).toByteArray.utf8DecodeChar? 0

/-- The byte can stand in a character after the first byte. -/
def isTail (byte : UInt8) : Bool :=
  0x80 ≤ byte && byte < 0xC0

/-- Some character has these two bytes first. Not every tail can follow where a longer encoding begins, since a
shorter one, a surrogate or no code point at all would be meant. -/
def beginsCharacter (first second : UInt8) : Bool :=
  if first = 0xE0 then 0xA0 ≤ second && second < 0xC0
  else if first = 0xED then 0x80 ≤ second && second < 0xA0
  else if first = 0xF0 then 0x90 ≤ second && second < 0xC0
  else if first = 0xF4 then 0x80 ≤ second && second < 0x90
  else 0xC2 ≤ first && first < 0xF5 && isTail second

/-- How many bytes are at fault together when the bytes do not begin with a character. -/
def faultLength : List UInt8 → Nat
  | first :: second :: others =>
    if beginsCharacter first second then
      if 0xF0 ≤ first && others.head?.any isTail then 3 else 2
    else 1
  | _ => 1

/-- The bytes as characters, after those to be skipped. -/
def shownFrom : (skipped : Nat) → List UInt8 → List Char
  | _, [] => []
  | skipped + 1, _ :: rest => shownFrom skipped rest
  | 0, first :: rest =>
    match character? (first :: rest) with
    | some c => c :: shownFrom (c.utf8Size - 1) rest
    | none => '\uFFFD' :: shownFrom (faultLength (first :: rest) - 1) rest

/-- How the bytes are shown. -/
def text (raw : RawText) : String :=
  String.ofList (shownFrom 0 raw.bytes)

end RawText

end ForeignKeyLint
