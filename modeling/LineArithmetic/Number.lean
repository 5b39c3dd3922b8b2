import LineArithmetic.Binary64.Arithmetic
import LineArithmetic.Binary64.Printing

/-!
# Numbers of a line

A line is computed in binary64, and a result that is an integer may be held as
one.  `ofBinary64` is the only place where this happens: the result must be an
integer of magnitude at most `exactLimit`, below which binary64 holds every
integer.
-/

namespace LineArithmetic

/-- A number as a line's literal or result: an integer or a binary64 number. -/
inductive Number where
  | int (value : Int)
  | float (value : Binary64)
  deriving DecidableEq, Repr

namespace Number

/-- Up to this magnitude binary64 holds every integer. -/
def exactLimit : Nat := Nat.pow 2 53

/-- Holds a result as an integer when it may be one and is a small enough one. -/
def ofBinary64 (integral : Bool) (x : Binary64) : Number :=
  match x.toInt? with
  | some n => if integral ∧ n.natAbs ≤ exactLimit then .int n else .float x
  | none => .float x

def toBinary64 : Number → Binary64
  | .int n => Binary64.ofInt n
  | .float x => x

def isInt : Number → Bool
  | .int _ => true
  | .float _ => false

/-- Whether a number is infinite or no value. -/
def isNonFinite : Number → Bool
  | .int _ => false
  | .float x => !x.isFinite

/-- The text of a number. -/
def text : Number → String
  | .int n => toString n
  | .float x => x.text

theorem natAbs_le_of_ofBinary64 {integral : Bool} {x : Binary64} {n : Int}
    (h : ofBinary64 integral x = .int n) : n.natAbs ≤ exactLimit := by
  unfold ofBinary64 at h
  split at h
  · split at h
    · rename_i hle
      obtain rfl := Number.int.inj h
      exact hle.2
    · cases h
  · cases h

end Number

end LineArithmetic
