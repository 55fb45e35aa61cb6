import ForeignKeyLint.Text.Hex

/-!
Percent encoding: a byte as a percent sign and two hexadecimal digits. Which characters are kept as
they are depends on the part of a URL that they stand in.
-/

namespace ForeignKeyLint.Percent

open Text

def hexDigit (n : Nat) : Char :=
  (Nat.digitChar n).toUpper

/-- A percent sign and the two digits of each byte that encodes the character. -/
def encodeChar (c : Char) : List Char :=
  (String.utf8EncodeChar c).flatMap fun byte =>
    ['%', hexDigit (byte.toNat / 16), hexDigit (byte.toNat % 16)]

/-- Encodes every character that is not to be kept. -/
def encode (isKept : Char → Bool) (text : List Char) : List Char :=
  text.flatMap fun c => if isKept c then [c] else encodeChar c

/-- The bytes of a text, with each percent sign and its two digits read as a byte. A percent sign
without them stands for itself. -/
def decodeBytes : List Char → List UInt8
  | [] => []
  | '%' :: high :: low :: rest =>
    match hexDigit? high, hexDigit? low with
    | some high, some low => UInt8.ofNat (high * 16 + low) :: decodeBytes rest
    | _, _ => String.utf8EncodeChar '%' ++ decodeBytes (high :: low :: rest)
  | c :: rest => String.utf8EncodeChar c ++ decodeBytes rest

/-- The text that an encoded text stands for, unless its bytes encode none. -/
def decode? (text : List Char) : Option (List Char) :=
  (String.fromUTF8? ⟨(decodeBytes text).toArray⟩).map String.toList

/-- Characters that stand for themselves wherever they occur in a URL. -/
def isUnreserved (c : Char) : Bool :=
  c.isAlphanum || c == '-' || c == '_' || c == '.' || c == '~'

/-- A text as a single segment of a path. -/
def segment (text : List Char) : List Char :=
  encode isUnreserved text

/-- Characters that are encoded wherever they occur: the control characters and all that are not
ASCII. -/
def isControl (c : Char) : Bool :=
  c.toNat < 0x20 || 0x7F ≤ c.toNat

/-- Characters other than controls that a part of a URL keeps, given those it does not. -/
def keepsAllBut (encoded : String) (c : Char) : Bool :=
  !isControl c && !encoded.toList.contains c

end ForeignKeyLint.Percent
