import ForeignKeyLint.Decimal.Binary
import ForeignKeyLint.Text.Hex
import ForeignKeyLint.Text.Search

/-!
Internet addresses as the host of a URL, in both versions, read from any of their spellings and
written in one.
-/

namespace ForeignKeyLint

open Text

/-- An address of 32 bits. -/
structure Ipv4 where
  value : Nat
deriving Repr, DecidableEq

namespace Ipv4

/-- A number of an address: in base 16 after `0x`, in base 8 after another zero, else decimal. The
mark of a base alone is zero. -/
def part? (text : List Char) : Option Nat :=
  match text with
  | '0' :: 'x' :: digits | '0' :: 'X' :: digits =>
    if digits.isEmpty then some 0 else numeral? 16 digits
  | '0' :: digit :: digits => numeral? 8 (digit :: digits)
  | _ => numeral? 10 text

/-- The parts between dots. One dot may come after the last. -/
def parts (text : List Char) : List (List Char) :=
  let parts := splitOn '.' text
  if parts.length > 1 && parts.getLast? == some [] then parts.dropLast else parts

/-- A host whose last part is a number must be an address. -/
def isMeant (text : List Char) : Bool :=
  (parts text).getLast?.any fun last =>
    (!last.isEmpty && last.all Char.isDigit) || (part? last).isSome

/-- Reads an address of up to four numbers. The last one fills all bytes that the others leave. -/
def parse? (text : List Char) : Option Ipv4 := do
  let numbers ← (parts text).mapM part?
  let last ← numbers.getLast?
  let others := numbers.dropLast
  if others.length ≤ 3 && others.all (· < 256) && last < Nat.pow 256 (4 - others.length) then
    some { value := others.foldl (fun n byte => n * 256 + byte) 0 *
      Nat.pow 256 (4 - others.length) + last }
  else none

/-- The four bytes in decimal, with dots between them. -/
def text (address : Ipv4) : List Char :=
  let bytes := [24, 16, 8, 0].map fun shift => address.value >>> shift % 256
  ['.'].intercalate (bytes.map Decimal.digits)

end Ipv4

/-- An address of eight groups of 16 bits. -/
structure Ipv6 where
  groups : List Nat
deriving Repr, DecidableEq

namespace Ipv6

def groupCount : Nat := 8

/-- A group of one to four digits. -/
def group? (text : List Char) : Option Nat :=
  if text.length ≤ 4 then numeral? 16 text else none

/-- A decimal byte without a leading zero. -/
def byte? (text : List Char) : Option Nat := do
  let value ← numeral? 10 text
  if Decimal.digits value == text && value < 256 then some value else none

/-- Two groups written as four bytes with dots between them. -/
def dottedGroups? (text : List Char) : Option (List Nat) := do
  match ← (splitOn '.' text).mapM byte? with
  | [a, b, c, d] => some [a * 256 + b, c * 256 + d]
  | _ => none

/-- Groups with colons between them, or nothing at all. With `isEnd` the last two may be written as
bytes. -/
def groups? (isEnd : Bool) (text : List Char) : Option (List Nat) := do
  if text.isEmpty then return []
  let parts := splitOn ':' text
  let front ← parts.dropLast.mapM group?
  let last ← parts.getLast?
  match group? last with
  | some group => return front ++ [group]
  | none => if isEnd then return front ++ (← dottedGroups? last) else none

/-- Reads an address. Two colons in a row stand once for groups of zeros, one at least. -/
def parse? (text : List Char) : Option Ipv6 := do
  match splitAtFirst? [':', ':'] text with
  | none =>
    let groups ← groups? true text
    if groups.length = groupCount then some { groups } else none
  | some (before, after) =>
    let front ← groups? false before
    let back ← groups? true after
    let missing := groupCount - (front.length + back.length)
    if 0 < missing then some { groups := front ++ List.replicate missing 0 ++ back } else none

/-- The place and the length of the first of the longest runs of zeros. -/
def longestZeros (groups : List Nat) : Nat × Nat :=
  let runs := (List.range groups.length).map fun place =>
    (place, ((groups.drop place).takeWhile (· == 0)).length)
  runs.foldl (fun best run => if best.2 < run.2 then run else best) (0, 0)

/-- Groups in base 16 with colons between them. -/
def groupsText (groups : List Nat) : List Char :=
  [':'].intercalate (groups.map (Nat.toDigits 16))

/-- The groups in lower case, with two colons for the longest run of zeros, if that is longer than
one. -/
def text (address : Ipv6) : List Char :=
  let (place, length) := longestZeros address.groups
  if 1 < length then
    groupsText (address.groups.take place) ++ [':', ':'] ++
      groupsText (address.groups.drop (place + length))
  else groupsText address.groups

end Ipv6

end ForeignKeyLint
