import ForeignKeyLint.Decimal.Binary

/-!
The fewest digits that read back as the same double. A decimal reads back when it lies between
the midpoints to the neighbouring doubles, the midpoints included when the significand is even.
For one digit, two digits and so on the value's two neighbours on that decimal grid are tried; the
first grid with a hit wins, and of two hits the nearer one.
-/

namespace ForeignKeyLint.Decimal

/-- A positive decimal `mantissa * 10 ^ exponent`. -/
structure Scientific where
  mantissa : Nat
  exponent : Int
deriving Repr, DecidableEq

namespace Scientific

/-- Moves the zeros at the end of the mantissa into the exponent. -/
def normalize (d : Scientific) : Scientific :=
  let zeros := ((digits d.mantissa).reverse.takeWhile (· == '0')).length
  { mantissa := d.mantissa / Nat.pow 10 zeros, exponent := d.exponent + zeros }

end Scientific

/-- The exponent of the leading decimal digit of a positive fraction. -/
def leadingExponent (num den : Nat) : Int :=
  if den ≤ num then ((digits (num / den)).length : Int) - 1
  else
    let quotient := den / num
    let length := (digits quotient).length
    if den % num = 0 ∧ quotient = Nat.pow 10 (length - 1) then -((length : Int) - 1) else -(length : Int)

namespace Binary

/-- Four times the magnitude and the two midpoints around it, as numerators over the common
denominator of `fraction`. -/
private def window (b : Binary) : Nat × Nat × Nat :=
  let unit := Nat.pow 2 b.exponent.toNat
  let below := if b.lowestOfBinade then 1 else 2
  (4 * b.significand * unit, (4 * b.significand - below) * unit, (4 * b.significand + 2) * unit)

/-- The decimal with `mantissa` on the grid of `10 ^ exponent` reads back as `b`. -/
private def readsBack (b : Binary) (mantissa : Nat) (exponent : Int) : Bool :=
  let (_, low, high) := b.window
  let scaled := 4 * mantissa * Nat.pow 10 exponent.toNat * b.fraction.2
  let grid := Nat.pow 10 (-exponent).toNat
  if b.significand % 2 = 0 then low * grid ≤ scaled && scaled ≤ high * grid
  else low * grid < scaled && scaled < high * grid

/-- The decimal of `count` digits nearest to `b`, if one reads back. -/
private def ofLength? (b : Binary) (leading : Int) (count : Nat) : Option Scientific :=
  let exponent := leading - (count : Int) + 1
  let (num, den) := b.fraction
  let top := num * Nat.pow 10 (-exponent).toNat
  let bottom := den * Nat.pow 10 exponent.toNat
  let floor := top / bottom
  let remainder := top % bottom
  match b.readsBack floor exponent, b.readsBack (floor + 1) exponent with
  | true, false => some { mantissa := floor, exponent }
  | false, true => some { mantissa := floor + 1, exponent }
  | true, true =>
    let up := bottom < 2 * remainder ∨ (2 * remainder = bottom ∧ floor % 2 = 1)
    some { mantissa := if up then floor + 1 else floor, exponent }
  | false, false => none

/-- The shortest decimal that reads back as the magnitude of `b`, which is not zero. Seventeen
digits are always enough. -/
def shortest (b : Binary) : Scientific :=
  let (num, den) := b.fraction
  let leading := leadingExponent num den
  let found := (List.range 17).findSome? fun i => b.ofLength? leading (i + 1)
  (found.getD { mantissa := num / den, exponent := 0 }).normalize

end Binary

/-- How a decimal is laid out: the exponents of its leading digit for which it is written
positionally, always with a point; outside of them the exponent is written with its sign. -/
structure Layout where
  leastPositional : Int
  greatestPositional : Int

namespace Layout

private def positional (ds : List Char) (leading : Int) : List Char :=
  if leading < 0 then
    '0' :: '.' :: List.replicate (-leading - 1).toNat '0' ++ ds
  else
    let whole := leading.toNat + 1
    let fraction := ds.drop whole
    ds.take whole ++ List.replicate (whole - ds.length) '0' ++
      '.' :: (if fraction.isEmpty then ['0'] else fraction)

private def scientific (ds : List Char) (leading : Int) : List Char :=
  let head := match ds with
    | [] => []
    | [d] => [d]
    | d :: fraction => d :: '.' :: fraction
  head ++ 'e' :: (if leading < 0 then '-' else '+') :: digits leading.natAbs

/-- The text of a double, or nothing for one that is not finite. -/
def text? (layout : Layout) (x : Float) : Option String :=
  (Binary.ofFloat? x).map fun b =>
    let unsigned :=
      if b.significand = 0 then ['0', '.', '0']
      else
        let decimal := b.shortest
        let ds := digits decimal.mantissa
        let leading := decimal.exponent + (ds.length : Int) - 1
        if layout.leastPositional ≤ leading ∧ leading ≤ layout.greatestPositional then
          positional ds leading
        else scientific ds leading
    String.ofList (if b.negative then '-' :: unsigned else unsigned)

end Layout

end ForeignKeyLint.Decimal
