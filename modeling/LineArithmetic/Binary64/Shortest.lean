import LineArithmetic.Binary64.Rounding

/-!
# Shortest decimals

A finite magnitude is written with the fewest decimal digits that read back to
it; of the decimals of that length the nearest is chosen, and of two equally
near ones the even one.  Reading back is the format's own rounding,
`ReadsBack`, so the choice never depends on how the interval around a
magnitude is described.

If any decimal of a given length reads back, then one of the two neighbours of
the magnitude on the grid of that length does, and these are the candidates.
-/

namespace LineArithmetic.Binary64

/-- The decimal `coefficient * 10 ^ exponent`. -/
structure Decimal where
  coefficient : Nat
  exponent : Int
  deriving DecidableEq, Repr

/-- A decimal reads back to a rank when it is rounded to it. -/
def Decimal.ReadsBack (d : Decimal) (rank : Nat) : Prop :=
  nearestRank (d.coefficient * Nat.pow 10 d.exponent.toNat * unitsPerOne)
    (Nat.pow 10 (-d.exponent).toNat) = rank

instance (d : Decimal) (rank : Nat) : Decidable (d.ReadsBack rank) :=
  inferInstanceAs (Decidable (_ = _))

/-- The decimal without the zeros at the end of its coefficient; `fuel` bounds
how many are taken away. -/
def Decimal.trim : Nat → Decimal → Decimal
  | 0, d => d
  | fuel + 1, d =>
    if d.coefficient ≠ 0 ∧ d.coefficient % 10 = 0 then
      trim fuel ⟨d.coefficient / 10, d.exponent + 1⟩
    else d

/-- The number of decimal digits before the point, for `units` units.  Times
`10 ^ 324` every positive magnitude is at least one, so the digits of its
integral part can be counted; it is negative for small magnitudes. -/
def decimalPlaces (units : Nat) : Int :=
  (Nat.toDigits 10 (units * Nat.pow 10 324 / unitsPerOne)).length - 324

/-- The decimal of `length` digits nearest to a magnitude among those that
read back, if any does. -/
def candidate (rank length : Nat) : Option Decimal :=
  let units := unitsOfRank rank
  let exponent : Int := decimalPlaces units - length
  let num := units * Nat.pow 10 (-exponent).toNat
  let den := unitsPerOne * Nat.pow 10 exponent.toNat
  let below : Decimal := ⟨num / den, exponent⟩
  let above : Decimal := ⟨num / den + 1, exponent⟩
  if below.ReadsBack rank then
    if above.ReadsBack rank then some ⟨divNearestEven num den, exponent⟩ else some below
  else if above.ReadsBack rank then some above
  else none

/-- The decimal that is exactly a magnitude. -/
def exactDecimal (rank : Nat) : Decimal :=
  ⟨unitsOfRank rank * Nat.pow 5 1074, -1074⟩

/-- The decimal that a magnitude is written with.  Seventeen digits identify
every magnitude; the exact decimal stands behind them. -/
def shortest (rank : Nat) : Decimal :=
  let chosen := ((List.range 17).findSome? fun n => candidate rank (n + 1)).getD
    (exactDecimal rank)
  chosen.trim (Nat.toDigits 10 chosen.coefficient).length

end LineArithmetic.Binary64
