import LineArithmetic.Binary64.Rounding

/-!
# The four operations

Sums, differences and products of finite numbers are the exact results rounded
once.  Division is total: a zero divisor gives an infinity whose sign is the
product of the signs, or no value when the dividend is zero or no value itself.
-/

namespace LineArithmetic.Binary64

/-- Rounds a whole number of units.  A sum that vanishes takes the given sign. -/
def ofSignedUnits (zeroSign : Bool) (units : Int) : Binary64 :=
  if units = 0 then zero zeroSign else ofUnits (units < 0) units.natAbs 1

def neg : Binary64 → Binary64
  | .nan => .nan
  | .infinite negative => .infinite !negative
  | .finite negative rank => .finite (!negative) rank

/-- A sum of finite numbers that is exactly zero is negative only if both
terms are. -/
def add : Binary64 → Binary64 → Binary64
  | .nan, _ | _, .nan => .nan
  | .infinite s, .infinite t => if s = t then .infinite s else .nan
  | .infinite s, .finite .. => .infinite s
  | .finite .., .infinite t => .infinite t
  | x@(.finite s _), y@(.finite t _) =>
    ofSignedUnits (s && t) (x.signedUnits + y.signedUnits)

def sub (x y : Binary64) : Binary64 :=
  add x (neg y)

def mul : Binary64 → Binary64 → Binary64
  | .nan, _ | _, .nan => .nan
  | .infinite s, .infinite t => .infinite (s != t)
  | .infinite s, y@(.finite t _) => if y.isZero then .nan else .infinite (s != t)
  | x@(.finite s _), .infinite t => if x.isZero then .nan else .infinite (s != t)
  | .finite s m, .finite t n =>
    ofUnits (s != t) (unitsOfRank m * unitsOfRank n) unitsPerOne

/-- The quotient by a divisor that is not zero. -/
def quotient : Binary64 → Binary64 → Binary64
  | .nan, _ | _, .nan => .nan
  | .infinite _, .infinite _ => .nan
  | .infinite s, .finite t _ => .infinite (s != t)
  | .finite s _, .infinite t => zero (s != t)
  | .finite s m, .finite t n =>
    ofQuotient (s != t) (unitsOfRank m) (unitsOfRank n)

/-- Division by every divisor, zeros included. -/
def div (x y : Binary64) : Binary64 :=
  if y.isZero then
    if x.isZero || x.isNaN then .nan else .infinite (x.isNegative != y.isNegative)
  else quotient x y

@[simp] theorem neg_neg (x : Binary64) : neg (neg x) = x := by
  cases x <;> simp [neg]

end LineArithmetic.Binary64
