import LineArithmetic.Binary64.Basic

/-!
# Rounding to nearest

Every operation of the format is its exact result rounded once.  The exact
result of each is a quotient of natural numbers of units together with a sign,
and `ofUnits` rounds such a quotient: to the nearest magnitude, of two equally
near ones to that of even rank, and to infinity from the place where the rank
would leave the finite range.

The quotient is divided on the grid of its own step.  If it rounds up to the
end of its block, the sum of the block's first rank and the rounded quotient
is the first rank of the next block, so no case is needed for the carry.
-/

namespace LineArithmetic.Binary64

/-- The integer nearest to a quotient; a half goes to the even neighbour. -/
def divNearestEven (num den : Nat) : Nat :=
  let quotient := num / den
  let remainder := num % den
  if 2 * remainder < den ∨ (2 * remainder = den ∧ quotient % 2 = 0) then quotient
  else quotient + 1

/-- The rank of the magnitude nearest to `num / den` units.  It is
`rankLimit` or more when the quotient lies beyond the finite range. -/
def nearestRank (num den : Nat) : Nat :=
  let step := (num / den).log2 - 52
  step * Nat.pow 2 52 + divNearestEven num (den * Nat.pow 2 step)

/-- The number of a given sign that is nearest to `num / den` units. -/
def ofUnits (negative : Bool) (num den : Nat) : Binary64 :=
  if h : nearestRank num den < rankLimit then .finite negative ⟨_, h⟩
  else .infinite negative

/-- The number nearest to a quotient of natural numbers. -/
def ofQuotient (negative : Bool) (num den : Nat) : Binary64 :=
  ofUnits negative (num * unitsPerOne) den

/-- The number nearest to an integer. -/
def ofInt (value : Int) : Binary64 :=
  ofQuotient (value < 0) value.natAbs 1

/-- The number nearest to `coefficient * 10 ^ exponent`.

A coefficient is less than ten to the power of its binary length, so far
outside the range of the format the answer is known without the power. -/
def ofDecimal (negative : Bool) (coefficient : Nat) (exponent : Int) : Binary64 :=
  if coefficient = 0 then zero negative
  else if 400 < exponent then .infinite negative
  else if exponent < -(400 + coefficient.log2 : Int) then zero negative
  else ofQuotient negative (coefficient * Nat.pow 10 exponent.toNat)
    (Nat.pow 10 (-exponent).toNat)

theorem divNearestEven_mul {den : Nat} (quotient : Nat) (h : 0 < den) :
    divNearestEven (quotient * den) den = quotient := by
  simp [divNearestEven, Nat.mul_div_cancel _ h, h]

end LineArithmetic.Binary64
