import ForeignKeyLint.Decimal.Binary

/-!
Decimals with a fixed number of places. The exact value of the double is rounded, and a half goes
to the even neighbour.
-/

namespace ForeignKeyLint.Decimal

/-- The integer nearest to a fraction, and the even one of two that are equally near. -/
def roundHalfEven (num den : Nat) : Nat :=
  let floor := num / den
  let twice := 2 * (num % den)
  if den < twice ∨ (twice = den ∧ floor % 2 = 1) then floor + 1 else floor

/-- A double with `places` digits after the point. The sign of a negative value stays when it
rounds to zero. -/
def fixed (places : Nat) (x : Float) : String :=
  match Binary.ofFloat? x with
  | none => if x.isNaN then "NaN" else if x < 0 then "-inf" else "inf"
  | some b =>
    let (num, den) := b.fraction
    let unit := Nat.pow 10 places
    let scaled := roundHalfEven (num * unit) den
    let whole := text (scaled / unit)
    let fraction := digits (scaled % unit)
    let padded := String.ofList (List.replicate (places - fraction.length) '0' ++ fraction)
    (if b.negative then "-" else "") ++ whole ++ (if places = 0 then "" else "." ++ padded)

end ForeignKeyLint.Decimal
