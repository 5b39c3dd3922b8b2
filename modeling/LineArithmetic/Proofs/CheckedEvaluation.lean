import LineArithmetic.Evaluation
import LineArithmetic.Proofs.Binary64.Integers

/-!
# Evaluation with partial steps

The operations that a line is computed with are total, but the steps that they
are made of are not: there is no quotient by a zero, no integer for a number
that is not finite, and no finite number for an integer that is too large.
`Failure` names these beside the faults of a tree.

`Number.hold`, `checkedDiv` and `Node.checkedEval` compute with the partial
steps, each behind the test that is made in front of it.  `hold_eq` and
`checkedDiv_eq` say that the tests are enough, for every operand.  For the
conversion of integers there is no test.  It succeeds because every integer
value is at most `2 ^ 53` in magnitude (`Node.isSmall_of_eval`).  So no tree,
put together by hand or not, fails in another way than by a fault
(`Node.checkedEval_eq`).
-/

namespace LineArithmetic

/-- Why an evaluation with partial steps gives no value. -/
inductive Failure where
  | fault (fault : Fault)
  /-- A quotient by a zero. -/
  | zeroDivisor
  /-- An integer above all finite numbers is converted to one. -/
  | tooLarge
  /-- A number that is not finite is converted to an integer. -/
  | notFinite
  deriving DecidableEq, Repr

namespace Binary64

/-! ## Partial steps -/

/-- The quotient by a divisor; there is none by a zero. -/
def checkedQuotient (x y : Binary64) : Except Failure Binary64 :=
  if y.isZero then .error .zeroDivisor else .ok (quotient x y)

/-- An integer as a number of the format, if it is not too large. -/
def checkedOfInt (n : Int) : Except Failure Binary64 :=
  if (ofInt n).isFinite then .ok (ofInt n) else .error .tooLarge

/-- The integral part of a finite number. -/
def truncate : Binary64 → Except Failure Int
  | .finite negative rank => .ok (signed negative (unitsOfRank rank / unitsPerOne))
  | _ => .error .notFinite

/-- Whether a number has no fractional part. -/
def isWhole : Binary64 → Bool
  | .finite _ rank => unitsOfRank rank % unitsPerOne == 0
  | _ => false

/-- Whether the magnitude of a number is at most a bound. -/
def isWithin (bound : Nat) : Binary64 → Bool
  | .finite _ rank => unitsOfRank rank ≤ bound * unitsPerOne
  | _ => false

/-- Division by every divisor; the quotient is taken if the divisor is not
zero. -/
def checkedDiv (x y : Binary64) : Except Failure Binary64 :=
  if y.isZero then
    .ok (if x.isZero || x.isNaN then .nan else .infinite (x.isNegative != y.isNegative))
  else checkedQuotient x y

/-- No quotient by a zero is taken. -/
theorem checkedDiv_eq (x y : Binary64) : checkedDiv x y = .ok (div x y) := by
  unfold checkedDiv div
  split
  · rfl
  · rename_i hdivisor
    rw [checkedQuotient, if_neg hdivisor]

theorem checkedOfInt_eq {n : Int} (h : n.natAbs ≤ 2 ^ 53) : checkedOfInt n = .ok (ofInt n) := by
  rw [checkedOfInt, if_pos (isFinite_ofInt h)]

end Binary64

namespace Number

open Binary64

/-- Holds a result as an integer when it may be one and is a small enough one;
it is converted behind the tests. -/
def hold (integral : Bool) (x : Binary64) : Except Failure Number :=
  if integral && x.isFinite && x.isWhole && x.isWithin exactLimit then x.truncate.map .int
  else .ok (.float x)

/-- Only finite numbers are converted to integers. -/
theorem hold_eq (integral : Bool) (x : Binary64) :
    hold integral x = .ok (ofBinary64 integral x) := by
  cases x with
  | nan => simp [hold, isFinite, ofBinary64, toInt?]
  | infinite s => simp [hold, isFinite, ofBinary64, toInt?]
  | finite s rank =>
    by_cases hwhole : unitsPerOne ∣ unitsOfRank rank
    · obtain ⟨n, hn⟩ := hwhole
      rw [Nat.mul_comm] at hn
      have hread : (finite s rank).toInt? = some (signed s n) := toInt?_finite hn
      have hcut : (finite s rank).truncate = .ok (signed s n) := by
        rw [truncate, hn, Nat.mul_div_cancel _ unitsPerOne_pos]
      have hisWhole : (finite s rank).isWhole = true := by
        rw [isWhole, hn, Nat.mul_mod_left]
        rfl
      have hwithin : (finite s rank).isWithin exactLimit = decide (n ≤ exactLimit) := by
        rw [isWithin, hn, decide_eq_decide]
        exact Nat.mul_le_mul_right_iff unitsPerOne_pos
      rw [hold, ofBinary64, hread, hcut, hisWhole, hwithin]
      simp only [natAbs_signed, isFinite, Bool.and_true, Bool.and_eq_true, decide_eq_true_eq]
      split <;> rfl
    · have hread : (finite s rank).toInt? = none :=
        if_neg fun hmod => hwhole (Nat.dvd_of_mod_eq_zero hmod)
      have hisWhole : (finite s rank).isWhole = false :=
        beq_false_of_ne fun hmod => hwhole (Nat.dvd_of_mod_eq_zero hmod)
      rw [hold, ofBinary64, hread, hisWhole, Bool.and_false, Bool.false_and,
        if_neg Bool.false_ne_true]

/-- The number that a literal denotes, read and held step by step. -/
def checkedOfLiteral (literal : String) : Except Failure Number :=
  match Binary64.read? literal with
  | none => .error (.fault (.unreadableNumber literal))
  | some x => hold (!literal.toList.contains '.') x

theorem checkedOfLiteral_eq {literal : String} {v : Number} (h : ofLiteral? literal = some v) :
    checkedOfLiteral literal = .ok v := by
  obtain ⟨x, hread, rfl⟩ := Option.map_eq_some_iff.mp h
  rw [checkedOfLiteral, hread]
  exact hold_eq _ x

/-- A number as an operand; an integer is converted. -/
def checkedToBinary64 : Number → Except Failure Binary64
  | .int n => checkedOfInt n
  | .float x => .ok x

end Number

/-! ## Checked evaluation -/

/-- What an operator computes, step by step. -/
def checkedOperation (op : String) :
    Except Failure (Binary64 → Binary64 → Except Failure Binary64) :=
  match op with
  | "+" => .ok fun x y => .ok (x.add y)
  | "-" => .ok fun x y => .ok (x.sub y)
  | "*" => .ok fun x y => .ok (x.mul y)
  | "/" => .ok Binary64.checkedDiv
  | _ => .error (.fault (.unknownOperator op))

/-- An operator that is known computes for all operands. -/
theorem checkedOperation_of_some {op : String} {f : Binary64 → Binary64 → Binary64}
    (h : operation? op = some f) : checkedOperation op = .ok fun x y => .ok (f x y) := by
  unfold operation? at h
  split at h
  · exact Option.some.inj h ▸ rfl
  · exact Option.some.inj h ▸ rfl
  · exact Option.some.inj h ▸ rfl
  · obtain rfl := Option.some.inj h
    exact congrArg Except.ok (funext₂ Binary64.checkedDiv_eq)
  · cases h

theorem checkedOperation_of_none {op : String} (h : operation? op = none) :
    checkedOperation op = .error (.fault (.unknownOperator op)) := by
  unfold operation? at h
  split at h
  case h_5 hplus hminus htimes hdivide =>
    unfold checkedOperation
    split <;> first | contradiction | rfl
  all_goals cases h

namespace Value

/-- A value as an operand; integers are converted, and truth values with
them. -/
def checkedToBinary64 : Value → Except Failure Binary64
  | .void => .error (.fault .missingOperand)
  | .number n => n.checkedToBinary64
  | .text s =>
    match Binary64.read? s with
    | some x => .ok x
    | none => .error (.fault (.unreadableNumber s))
  | .truth b => Binary64.checkedOfInt (if b then 1 else 0)

/-- Applies an operator to two values step by step. -/
def checkedCombine (op : String) (left right : Value) : Except Failure Value := do
  let f ← checkedOperation op
  let x ← left.checkedToBinary64
  let y ← right.checkedToBinary64
  let result ← f x y
  let n ← Number.hold (left.isInt && right.isInt) result
  return .number n

/-- What an operator applied to two values does when it does not fail. -/
theorem combine_eq_ok_iff {op : String} {left right v : Value} :
    combine op left right = .ok v ↔ ∃ f x y, operation? op = some f ∧
      left.toBinary64 = .ok x ∧ right.toBinary64 = .ok y ∧
      v = .number (.ofBinary64 (left.isInt && right.isInt) (f x y)) := by
  unfold combine
  cases operation? op with
  | none => simp
  | some f =>
    cases left.toBinary64 with
    | error fault => simp
    | ok x =>
      cases right.toBinary64 with
      | error fault => simp
      | ok y => simp [eq_comm]

/-- Whether a value, if it is an integer, is a small one. -/
def IsSmall : Value → Prop
  | .number (.int k) => k.natAbs ≤ 2 ^ 53
  | _ => True

theorem isSmall_ofBinary64 (integral : Bool) (x : Binary64) :
    (number (.ofBinary64 integral x)).IsSmall := by
  cases h : Number.ofBinary64 integral x with
  | int k => exact Number.natAbs_le_of_ofBinary64 h
  | float y => trivial

/-- A small value is converted to a number unless it is none. -/
theorem IsSmall.checkedToBinary64_eq {v : Value} (h : v.IsSmall) :
    v.checkedToBinary64 = v.toBinary64.mapError .fault := by
  cases v with
  | void => rfl
  | number n =>
    cases n with
    | int k => exact Binary64.checkedOfInt_eq h
    | float x => rfl
  | text s =>
    rw [checkedToBinary64, toBinary64]
    cases Binary64.read? s <;> rfl
  | truth b => cases b <;> exact Binary64.checkedOfInt_eq (by decide)

/-- An operator on small values fails by a fault only. -/
theorem checkedCombine_eq (op : String) {left right : Value} (hleft : left.IsSmall)
    (hright : right.IsSmall) :
    checkedCombine op left right = (combine op left right).mapError .fault := by
  rw [checkedCombine, combine, hleft.checkedToBinary64_eq, hright.checkedToBinary64_eq]
  cases hop : operation? op with
  | none =>
    rw [checkedOperation_of_none hop]
    rfl
  | some f =>
    rw [checkedOperation_of_some hop]
    cases left.toBinary64 with
    | error fault => rfl
    | ok x =>
      cases right.toBinary64 with
      | error fault => rfl
      | ok y =>
        simp only [Except.mapError, bind, Except.bind, Number.hold_eq]
        rfl

end Value

namespace Node

/-- The value of a tree, computed step by step; literals are read again. -/
def checkedEval : Node → Except Failure Value
  | .void => .ok .void
  | .number numeral => (Number.checkedOfLiteral numeral.literal).map .number
  | .diagnostic d => .ok (.text d.message)
  | .foreign leaf => .error (.fault (.notATree leaf))
  | .binary op left right => do
    let l ← checkedEval left
    let r ← checkedEval right
    Value.checkedCombine op l r

/-- What an operation does when it does not fail. -/
theorem eval_binary_eq_ok_iff {op : String} {left right : Node} {v : Value} :
    (binary op left right).eval = .ok v ↔
      ∃ l r, left.eval = .ok l ∧ right.eval = .ok r ∧ Value.combine op l r = .ok v := by
  rw [eval]
  cases left.eval with
  | error fault => simp
  | ok l =>
    cases right.eval with
    | error fault => simp
    | ok r => simp

/-- Every value of a tree is small. -/
theorem isSmall_of_eval {node : Node} {v : Value} (h : node.eval = .ok v) : v.IsSmall := by
  cases node with
  | void =>
    obtain rfl := Except.ok.inj h
    trivial
  | number numeral =>
    obtain rfl := Except.ok.inj h
    obtain ⟨x, -, hvalue⟩ := Option.map_eq_some_iff.mp numeral.denotes
    rw [← hvalue]
    exact Value.isSmall_ofBinary64 _ x
  | diagnostic d =>
    obtain rfl := Except.ok.inj h
    trivial
  | foreign leaf => cases h
  | binary op left right =>
    obtain ⟨l, r, -, -, hcombine⟩ := eval_binary_eq_ok_iff.mp h
    obtain ⟨f, x, y, -, -, -, rfl⟩ := Value.combine_eq_ok_iff.mp hcombine
    exact Value.isSmall_ofBinary64 _ _

/-- Evaluating a tree fails by a fault only. -/
theorem checkedEval_eq (node : Node) : node.checkedEval = node.eval.mapError .fault := by
  induction node with
  | void => rfl
  | number numeral =>
    rw [checkedEval, Number.checkedOfLiteral_eq numeral.denotes]
    rfl
  | diagnostic d => rfl
  | foreign leaf => rfl
  | binary op left right ihleft ihright =>
    rw [checkedEval, eval, ihleft]
    cases hl : left.eval with
    | error fault => rfl
    | ok l =>
      rw [ihright]
      cases hr : right.eval with
      | error fault => rfl
      | ok r => exact Value.checkedCombine_eq op (isSmall_of_eval hl) (isSmall_of_eval hr)

end Node

end LineArithmetic
