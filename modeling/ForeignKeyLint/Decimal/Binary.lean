/-!
A finite double as an exact fraction, and the decimal digits of natural numbers. The number
formats of the program start from these.
-/

namespace ForeignKeyLint.Decimal

/-- A finite double: its sign and its magnitude `significand * 2 ^ exponent`. `lowestOfBinade`
says that the next smaller double is nearer than the next greater one. -/
structure Binary where
  negative : Bool
  significand : Nat
  exponent : Int
  lowestOfBinade : Bool
deriving Repr, DecidableEq

/-- The parts of a double, unless it is infinite or not a number. -/
def Binary.ofFloat? (x : Float) : Option Binary :=
  let bits := x.toBits.toNat
  let negative : Bool := bits / Nat.pow 2 63 = 1
  let biased : Nat := bits / Nat.pow 2 52 % Nat.pow 2 11
  let fraction : Nat := bits % Nat.pow 2 52
  if biased = 2047 then none
  else if biased = 0 then
    some { negative, significand := fraction, exponent := -1074, lowestOfBinade := false }
  else
    some {
      negative, significand := fraction + Nat.pow 2 52, exponent := (biased : Int) - 1075
      lowestOfBinade := fraction = 0 ∧ 1 < biased }

/-- The magnitude as a fraction of natural numbers. -/
def Binary.fraction (b : Binary) : Nat × Nat :=
  (b.significand * Nat.pow 2 b.exponent.toNat, Nat.pow 2 (-b.exponent).toNat)

/-- The decimal digits of a natural number, without leading zeros; zero is `0`. -/
def digits (n : Nat) : List Char :=
  Nat.toDigits 10 n

def text (n : Nat) : String :=
  String.ofList (digits n)

end ForeignKeyLint.Decimal
