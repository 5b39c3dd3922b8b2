/-!
# Binary64 numbers

The numbers that a line is computed with.  The finite magnitudes of binary64
are multiples of one unit, `2 ^ (-1074)`, and a magnitude is named by its
*rank*: its place in the increasing list of all finite magnitudes.  Zero has
rank `0`, the least positive magnitude rank `1`, and infinity would have rank
`rankLimit`.  So equality of numbers is equality of their names, the order of
magnitudes is the order of ranks, and the neighbours of a magnitude are the
neighbours of its rank.

`unitsOfRank` says which multiple of the unit a rank stands for.  Below rank
`2 ^ 53` the two agree; from there on each block of `2 ^ 52` ranks doubles the
distance between neighbours.
-/

namespace LineArithmetic

/-- The number of finite magnitudes. -/
abbrev Binary64.rankLimit : Nat := 2047 * Nat.pow 2 52

/-- A number of the binary64 format.  Zeros and infinities are signed, and
there is one number that stands for no value. -/
inductive Binary64 where
  | nan
  | infinite (negative : Bool)
  | finite (negative : Bool) (rank : Fin Binary64.rankLimit)
  deriving DecidableEq, Repr

namespace Binary64

/-- How many times the distance between neighbours has doubled at a rank. -/
def stepOfRank (rank : Nat) : Nat :=
  rank / Nat.pow 2 52 - 1

/-- The magnitude of a rank, counted in units of `2 ^ (-1074)`. -/
def unitsOfRank (rank : Nat) : Nat :=
  (rank - stepOfRank rank * Nat.pow 2 52) * Nat.pow 2 (stepOfRank rank)

/-- How many units the number one holds. -/
abbrev unitsPerOne : Nat := Nat.pow 2 1074

/-- The zero of a sign. -/
def zero (negative : Bool) : Binary64 :=
  .finite negative ⟨0, by decide⟩

def isNaN : Binary64 → Bool
  | .nan => true
  | _ => false

def isFinite : Binary64 → Bool
  | .finite .. => true
  | _ => false

/-- Whether a number is a zero of either sign. -/
def isZero : Binary64 → Bool
  | .finite _ rank => rank.val == 0
  | _ => false

/-- The sign bit; the number that stands for no value carries none. -/
def isNegative : Binary64 → Bool
  | .nan => false
  | .infinite negative => negative
  | .finite negative _ => negative

/-- A finite number counted in units, with its sign; the others count nothing. -/
def signedUnits : Binary64 → Int
  | .finite false rank => unitsOfRank rank
  | .finite true rank => -(unitsOfRank rank : Int)
  | _ => 0

/-- The integer that a number is, if it is one. -/
def toInt? : Binary64 → Option Int
  | .finite negative rank =>
    if unitsOfRank rank % unitsPerOne = 0 then
      let whole : Int := (unitsOfRank rank / unitsPerOne : Nat)
      some (if negative then -whole else whole)
    else none
  | _ => none

theorem unitsOfRank_of_lt {rank : Nat} (h : rank < Nat.pow 2 53) :
    unitsOfRank rank = rank := by
  have hstep : stepOfRank rank = 0 := by
    unfold stepOfRank
    simp only [Nat.pow_eq] at h ⊢
    omega
  simp [unitsOfRank, hstep]

@[simp] theorem isZero_zero (negative : Bool) : (zero negative).isZero = true := rfl

@[simp] theorem isNegative_zero (negative : Bool) :
    (zero negative).isNegative = negative := rfl

end Binary64

end LineArithmetic
