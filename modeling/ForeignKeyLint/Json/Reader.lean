import ForeignKeyLint.Json.Value
import ForeignKeyLint.Text.Hex

/-!
Reading JSON texts. A number with a point or an exponent, or beyond sixty-four bits, becomes a
double: its leading digits, as many as fit sixty-four bits, times a power of ten, both rounded to
doubles first. A value outside the range of doubles is refused, as is an unpaired surrogate, a raw
control character in a string, and a text nested deeper than `nestingLimit`.
-/

namespace ForeignKeyLint.Json.Reader

/-- Lists and objects may be nested this deep, exclusive. -/
def nestingLimit : Nat := 128

def isSpace (c : Char) : Bool :=
  c == ' ' || c == '\n' || c == '\t' || c == '\r'

def skipSpace (text : List Char) : List Char :=
  text.dropWhile isSpace

/-- Four hexadecimal digits. -/
def codeUnit? : List Char → Option (Nat × List Char)
  | a :: b :: c :: d :: rest => do
    let a ← Text.hexDigit? a
    let b ← Text.hexDigit? b
    let c ← Text.hexDigit? c
    let d ← Text.hexDigit? d
    some (((a * 16 + b) * 16 + c) * 16 + d, rest)
  | _ => none

/-- The character after `\u`, written as one code unit or as a pair of surrogates. -/
def unicodeEscape? (text : List Char) : Option (Char × List Char) := do
  let (unit, rest) ← codeUnit? text
  if 0xD800 ≤ unit ∧ unit ≤ 0xDBFF then
    match rest with
    | '\\' :: 'u' :: rest =>
      let (low, rest) ← codeUnit? rest
      if 0xDC00 ≤ low ∧ low ≤ 0xDFFF then
        some (Char.ofNat (0x10000 + (unit - 0xD800) * 0x400 + (low - 0xDC00)), rest)
      else none
    | _ => none
  else if 0xDC00 ≤ unit ∧ unit ≤ 0xDFFF then none
  else some (Char.ofNat unit, rest)

/-- The character an escape of one letter stands for. -/
def shortEscape? (c : Char) : Option Char :=
  match c with
  | '"' => some '"'
  | '\\' => some '\\'
  | '/' => some '/'
  | 'b' => some '\x08'
  | 'f' => some '\x0c'
  | 'n' => some '\n'
  | 'r' => some '\r'
  | 't' => some '\t'
  | _ => none

/-- The characters of a string up to its closing quote. Each round reads at least one character,
so the text's length bounds the rounds. -/
def stringBody? : (rounds : Nat) → List Char → Option (List Char × List Char)
  | 0, _ => none
  | _, [] => none
  | _, '"' :: rest => some ([], rest)
  | rounds + 1, '\\' :: 'u' :: rest => do
    let (c, rest) ← unicodeEscape? rest
    let (body, rest) ← stringBody? rounds rest
    some (c :: body, rest)
  | rounds + 1, '\\' :: letter :: rest => do
    let c ← shortEscape? letter
    let (body, rest) ← stringBody? rounds rest
    some (c :: body, rest)
  | rounds + 1, c :: rest =>
    if c.toNat < 0x20 ∨ c = '\\' then none
    else do
      let (body, rest) ← stringBody? rounds rest
      some (c :: body, rest)

/-- A string whose opening quote has been read. -/
def string? (text : List Char) : Option (String × List Char) :=
  (stringBody? (text.length + 1) text).map fun (body, rest) => (String.ofList body, rest)

/-- The greatest significand that is kept. -/
def maxSignificand : Nat := Nat.pow 2 64 - 1

/-- Reads digits into a significand as long as it fits, and counts the digits taken and left. -/
def takeDigits (significand : Nat) : List Char → Nat × Nat × Nat
  | [] => (significand, 0, 0)
  | c :: rest =>
    let next := significand * 10 + (c.toNat - '0'.toNat)
    if next ≤ maxSignificand then
      let (value, taken, left) := takeDigits next rest
      (value, taken + 1, left)
    else (significand, 0, rest.length + 1)

/-- A power of ten as a double. -/
def powerOfTen (exponent : Nat) : Float :=
  Float.ofScientific 1 false exponent

/-- Scales a double down by `10 ^ exponent`, in steps that are doubles themselves. -/
def scaleDown (value : Float) (exponent : Nat) : Float :=
  if exponent ≤ 308 then value / powerOfTen exponent
  else if value == 0 then value
  else scaleDown (value / powerOfTen 308) (exponent - 308)
termination_by exponent

/-- `significand * 10 ^ exponent` as a double, unless it is out of range. -/
def double? (significand : Nat) (exponent : Int) : Option Float :=
  let value := Float.ofNat significand
  if exponent < 0 then some (scaleDown value exponent.natAbs)
  else if exponent ≤ 308 then
    let scaled := value * powerOfTen exponent.toNat
    if scaled.isInf then none else some scaled
  else if significand = 0 then some value
  else none

/-- The greatest exponent that is read digit by digit. -/
def maxExponent : Nat := Nat.pow 2 31 - 1

/-- The exponent part after its letter, as a sign and a value, if one digit at least stands
there. -/
def exponent? (text : List Char) : Option (Bool × Nat × List Char) :=
  let (negative, text) := match text with
    | '+' :: rest => (false, rest)
    | '-' :: rest => (true, rest)
    | _ => (false, text)
  let ds := text.takeWhile Char.isDigit
  if ds.isEmpty then none
  else some (negative, ds.foldl (fun n c => n * 10 + (c.toNat - '0'.toNat)) 0,
    text.dropWhile Char.isDigit)

/-- A number given its significand and the power of ten read so far, with the exponent part that
may follow. An exponent beyond the range gives zero if it is negative. -/
def scaled? (negative : Bool) (significand : Nat) (exponent : Int) (text : List Char) :
    Option (Json × List Char) := do
  let sign (x : Float) : Json := .float (if negative then -x else x)
  match text with
  | c :: rest =>
    if c = 'e' ∨ c = 'E' then
      let (down, size, rest) ← exponent? rest
      if maxExponent < size then
        if significand ≠ 0 ∧ !down then none else some (sign 0, rest)
      else
        let value ← double? significand (if down then exponent - size else exponent + size)
        some (sign value, rest)
    else
      let value ← double? significand exponent
      some (sign value, text)
  | [] =>
    let value ← double? significand exponent
    some (sign value, [])

/-- A number whose sign has been read. -/
def number? (negative : Bool) (text : List Char) : Option (Json × List Char) := do
  let whole := text.takeWhile Char.isDigit
  let rest := text.dropWhile Char.isDigit
  if whole.isEmpty ∨ (whole.head? = some '0' ∧ 1 < whole.length) then none
  let (significand, _, left) := takeDigits 0 whole
  match rest with
  | '.' :: rest =>
    let fraction := rest.takeWhile Char.isDigit
    if fraction.isEmpty then none
    -- A digit after the point may fit even when one of the whole part did not.
    let (significand, taken, _) := takeDigits significand fraction
    scaled? negative significand ((left : Int) - taken) (rest.dropWhile Char.isDigit)
  | 'e' :: _ | 'E' :: _ => scaled? negative significand left rest
  | _ =>
    if left ≠ 0 then scaled? negative significand left rest
    else if !negative then some (.int significand, rest)
    else if significand = 0 then some (.float (-0.0), rest)
    else if significand ≤ Nat.pow 2 63 then some (.int (-significand), rest)
    else some (.float (-(Float.ofNat significand)), rest)

/-- Items separated by commas up to the `closing` bracket, the first of which is due. Each round
reads one item. -/
def items? {α : Type} (item : List Char → Option (α × List Char)) (closing : Char) :
    (rounds : Nat) → List Char → Option (List α × List Char)
  | 0, _ => none
  | rounds + 1, text => do
    let (first, rest) ← item (skipSpace text)
    match skipSpace rest with
    | ',' :: rest =>
      let (others, rest) ← items? item closing rounds rest
      some (first :: others, rest)
    | c :: rest => if c = closing then some ([first], rest) else none
    | [] => none

/-- What stands between brackets, the opening one having been read. -/
def enclosed? {α : Type} (item : List Char → Option (α × List Char)) (closing : Char)
    (text : List Char) : Option (List α × List Char) :=
  match skipSpace text with
  | [] => none
  | c :: rest => if c = closing then some ([], rest) else items? item closing (rest.length + 2) text

/-- A member of an object: a name, a colon and a value. -/
def member? (value : List Char → Option (Json × List Char)) (text : List Char) :
    Option ((String × Json) × List Char) := do
  match text with
  | '"' :: rest =>
    let (name, rest) ← string? rest
    match skipSpace rest with
    | ':' :: rest =>
      let (json, rest) ← value (skipSpace rest)
      some ((name, json), rest)
    | _ => none
  | _ => none

/-- A value at the start of the text, with room for `nesting` levels. -/
def value? : (nesting : Nat) → List Char → Option (Json × List Char)
  | _, [] => none
  | 0, _ => none
  | nesting + 1, c :: rest =>
    match c with
    | '"' => (string? rest).map fun (s, rest) => (.str s, rest)
    | '-' => number? true rest
    | 'n' => match rest with
      | 'u' :: 'l' :: 'l' :: rest => some (.null, rest)
      | _ => none
    | 't' => match rest with
      | 'r' :: 'u' :: 'e' :: rest => some (.bool true, rest)
      | _ => none
    | 'f' => match rest with
      | 'a' :: 'l' :: 's' :: 'e' :: rest => some (.bool false, rest)
      | _ => none
    | '[' =>
      if nesting = 0 then none
      else (enclosed? (value? nesting) ']' rest).map fun (items, rest) => (.arr items, rest)
    | '{' =>
      if nesting = 0 then none
      else (enclosed? (member? (value? nesting)) '}' rest).map fun (members, rest) =>
        (.obj (members.foldl (fun found member => insertMember found member.1 member.2) []), rest)
    | _ => if c.isDigit then number? false (c :: rest) else none

end Reader

/-- The value a text holds, with nothing but spaces around it. -/
def parse? (text : String) : Option Json :=
  match Reader.value? Reader.nestingLimit (Reader.skipSpace text.toList) with
  | some (json, rest) => if (Reader.skipSpace rest).isEmpty then some json else none
  | none => none

end ForeignKeyLint.Json
