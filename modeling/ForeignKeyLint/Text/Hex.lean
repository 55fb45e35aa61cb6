/-!
Numbers written in a base of at most sixteen.
-/

namespace ForeignKeyLint.Text

/-- The value of a digit in base sixteen, in either case. -/
def hexDigit? (c : Char) : Option Nat :=
  if c.isDigit then some (c.toNat - '0'.toNat)
  else if 'a' ≤ c ∧ c ≤ 'f' then some (c.toNat - 'a'.toNat + 10)
  else if 'A' ≤ c ∧ c ≤ 'F' then some (c.toNat - 'A'.toNat + 10)
  else none

/-- The value of digits in a base up to sixteen, if there are any. -/
def numeral? (base : Nat) (digits : List Char) : Option Nat := do
  if digits.isEmpty then none
  let values ← digits.mapM hexDigit?
  if values.all (· < base) then some (values.foldl (fun n digit => n * base + digit) 0) else none

end ForeignKeyLint.Text
