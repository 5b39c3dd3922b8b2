import LineArithmetic.Proofs.Binary64.Integers
import LineArithmetic.Proofs.Chain

/-!
# Evaluating a chain

The value of a chain, computed from its last literal towards the first one
without a tree: each operator is applied to what the rest of the line gave and
the literal in front of it.  `Chain.eval_tree` says that evaluating the tree of
a chain gives this value.

The rest of the module says when a value is an integer, and that every integer
value is at most `2 ^ 53` in magnitude.
-/

namespace LineArithmetic

open Binary64

/-- Applies an operator to two numbers. -/
def Operator.combine (op : Operator) (left right : Number) : Number :=
  .ofBinary64 (left.isInt && right.isInt) (op.apply left.toBinary64 right.toBinary64)

namespace Chain

/-- The value of a chain. -/
def value : Chain → Number
  | last n => n.value
  | link n op rest => op.combine (value rest) n.value

/-- The tree of a chain evaluates to the value of the chain. -/
theorem eval_tree (c : Chain) : c.tree.eval = .ok (.number c.value) := by
  induction c with
  | last n => rfl
  | link n op rest ih =>
    simp only [tree, Node.eval, ih, Value.combine, op.operation?_symbol]
    rfl

end Chain

/-! ## Integer values -/

section Integers

variable {k : Int}

theorem Number.ofBinary64_eq_int_iff {integral : Bool} {x : Binary64} :
    ofBinary64 integral x = .int k ↔
      integral = true ∧ x.toInt? = some k ∧ k.natAbs ≤ 2 ^ 53 := by
  have hlimit : exactLimit = 2 ^ 53 := rfl
  unfold ofBinary64
  cases hx : x.toInt? with
  | none => simp
  | some n =>
    simp only [Option.some.injEq, hlimit]
    split
    · rename_i hsmall
      constructor
      · intro h
        obtain rfl := Number.int.inj h
        exact ⟨hsmall.1, rfl, hsmall.2⟩
      · rintro ⟨-, rfl, -⟩
        rfl
    · rename_i hlarge
      refine iff_of_false nofun ?_
      rintro ⟨hintegral, rfl, hle⟩
      exact hlarge ⟨hintegral, hle⟩

/-- A result that must not be an integer is kept as it is. -/
theorem Number.ofBinary64_false (x : Binary64) : ofBinary64 false x = .float x := by
  unfold ofBinary64
  cases x.toInt? with
  | none => rfl
  | some n => simp

/-- A literal is an integer exactly if it has no point and is read as a small
integer. -/
theorem Literal.value_eq_int_iff {n : Literal} :
    n.value = .int k ↔ n.fraction = [] ∧ n.toBinary64.toInt? = some k ∧ k.natAbs ≤ 2 ^ 53 := by
  rw [value, Number.ofBinary64_eq_int_iff, n.fraction_eq_nil_iff, Bool.not_eq_true',
    List.contains_eq_mem, decide_eq_false_iff_not]

/-- An operator gives an integer exactly if it is applied to two integers and
computes a small integer. -/
theorem Operator.combine_eq_int_iff {op : Operator} {left right : Number} :
    op.combine left right = .int k ↔
      ∃ l r, left = .int l ∧ right = .int r ∧
        (op.apply (ofInt l) (ofInt r)).toInt? = some k ∧ k.natAbs ≤ 2 ^ 53 := by
  rw [combine, Number.ofBinary64_eq_int_iff]
  cases left with
  | float x => simp [Number.isInt]
  | int l =>
    cases right with
    | float y => simp [Number.isInt]
    | int r => simp [Number.isInt, Number.toBinary64]

/-- An integer literal is small. -/
theorem Literal.natAbs_le_of_value {n : Literal} (h : n.value = .int k) : k.natAbs ≤ 2 ^ 53 :=
  Number.natAbs_le_of_ofBinary64 h

/-- An integer value is small. -/
theorem Chain.natAbs_le_of_value {c : Chain} (h : c.value = .int k) : k.natAbs ≤ 2 ^ 53 := by
  cases c with
  | last n => exact n.natAbs_le_of_value h
  | link n op rest => exact Number.natAbs_le_of_ofBinary64 h

end Integers

end LineArithmetic
