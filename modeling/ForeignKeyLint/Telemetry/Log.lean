/-!
Lines of the log. A message may quote names that come from outside, so the characters in it that
drive a terminal are shown by their numbers.
-/

namespace ForeignKeyLint.Telemetry

/-- A message and the values that belong to it. -/
structure LogLine where
  message : String
  fields : List (String × String) := []
deriving Repr, DecidableEq

namespace LogLine

/-- A number in base 16, with `width` digits at least. -/
def hex (width n : Nat) : List Char :=
  let digits := Nat.toDigits 16 n
  List.replicate (width - digits.length) '0' ++ digits

/-- A character as a message shows it: those that start or are part of a terminal's commands by
number, all others as they are. -/
def shown (c : Char) : List Char :=
  if ['\x07', '\x08', '\x0c', '\x1b', '\x7f'].contains c then ['\\', 'x'] ++ hex 2 c.toNat
  else if 0x80 ≤ c.toNat ∧ c.toNat ≤ 0x9F then ['\\', 'u', '\x7b'] ++ hex 2 c.toNat ++ ['\x7d']
  else [c]

/-- The line as it is written. Values are written as they are. -/
def text (line : LogLine) : String :=
  String.ofList (line.message.toList.flatMap shown) ++
    String.join (line.fields.map fun (name, value) => " " ++ name ++ "=" ++ value)

end LogLine

end ForeignKeyLint.Telemetry
