import LineArithmetic.Proofs.Binary64.SameNumber
import LineArithmetic.Proofs.Exactness

/-!
# Evaluation without integers

A line is computed in binary64, and its literals and partial results are held
as integers where they may be.  `Chain.plain` computes the same chain in
binary64 alone, with the division of the standard.

Holding a number as an integer drops the sign of a zero, which a division by
it would show.  But the accumulated number is always the left operand; the
right one is a literal, and no literal is negative, so it is computed with as
it is (`Literal.toBinary64_value`).  Hence the two evaluations give the same
number (`Chain.denotes_plain`), and `Chain.isInt_value_iff` reads off the plain
evaluation whether the result is held as an integer.
-/

namespace LineArithmetic

open Binary64

/-! ## Numbers of a line in binary64 -/

/-- Whether a number of a line, held as an integer or not, is the same number
as one of the format. -/
def Number.Denotes : Number → Binary64 → Prop
  | .int k, x => x.toInt? = some k
  | .float y, x => SameNumber y x

/-- Whether a number is a finite integer of at most `2 ^ 53` in magnitude. -/
def Binary64.IsSmallInteger (x : Binary64) : Prop :=
  ∃ k, x.toInt? = some k ∧ k.natAbs ≤ 2 ^ 53

theorem Binary64.SameNumber.isSmallInteger_iff {x y : Binary64} (h : SameNumber x y) :
    x.IsSmallInteger ↔ y.IsSmallInteger := by
  unfold IsSmallInteger
  rw [h.toInt?_eq]

namespace Number

variable {v : Number} {x y : Binary64}

theorem Denotes.trans (h : v.Denotes x) (hxy : SameNumber x y) : v.Denotes y := by
  cases v with
  | int k =>
    have hx : x.toInt? = some k := h
    show y.toInt? = some k
    rw [← hxy.toInt?_eq, hx]
  | float z =>
    have hz : SameNumber z x := h
    exact hz.trans hxy

theorem ofBinary64_eq_float {integral : Bool} (h : ofBinary64 integral x = .float y) :
    y = x := by
  unfold ofBinary64 at h
  split at h
  · split at h
    · cases h
    · exact (Number.float.inj h).symm
  · exact (Number.float.inj h).symm

/-- A result held as an integer is the same number. -/
theorem denotes_ofBinary64 (integral : Bool) (x : Binary64) :
    (ofBinary64 integral x).Denotes x := by
  cases h : ofBinary64 integral x with
  | int k =>
    obtain ⟨-, hread, -⟩ := ofBinary64_eq_int_iff.mp h
    exact hread
  | float y => exact Or.inl (ofBinary64_eq_float h)

/-- A number of a line is computed with as the same number. -/
theorem Denotes.sameNumber (h : v.Denotes x) (hsmall : ∀ k, v = .int k → k.natAbs ≤ 2 ^ 53) :
    SameNumber v.toBinary64 x := by
  cases v with
  | int k => exact sameNumber_ofInt h (hsmall k rfl)
  | float y => exact h

theorem isInt_iff : v.isInt = true ↔ ∃ k, v = .int k := by
  cases v with
  | int k => exact iff_of_true rfl ⟨k, rfl⟩
  | float y => exact iff_of_false Bool.false_ne_true nofun

end Number

/-! ## Literals -/

section Signs

variable (negative : Bool)

theorem Binary64.isNegative_ofUnits (num den : Nat) :
    (ofUnits negative num den).isNegative = negative := by
  unfold ofUnits
  split <;> rfl

theorem Binary64.isNegative_ofDecimal (coefficient : Nat) (exponent : Int) :
    (ofDecimal negative coefficient exponent).isNegative = negative := by
  unfold ofDecimal
  split
  · rfl
  · split
    · rfl
    · split
      · rfl
      · exact isNegative_ofUnits negative _ _

end Signs

namespace Literal

/-- No literal is negative, not even one of zero. -/
theorem isNegative_toBinary64 (n : Literal) : n.toBinary64.isNegative = false :=
  isNegative_ofDecimal false _ _

theorem nonneg_of_value_eq_int {n : Literal} {k : Int} (h : n.value = .int k) : 0 ≤ k := by
  obtain ⟨-, hread, -⟩ := value_eq_int_iff.mp h
  obtain ⟨negative, rank, hfinite, -, hsign⟩ := finite_of_toInt?_eq hread
  have hnegative := n.isNegative_toBinary64
  rw [hfinite] at hnegative
  obtain rfl : negative = false := hnegative
  rw [signed_false] at hsign
  omega

/-- A literal that is held as an integer is computed with as if it were not. -/
theorem toBinary64_value (n : Literal) : n.value.toBinary64 = n.toBinary64 := by
  cases h : n.value with
  | float y => exact Number.ofBinary64_eq_float h
  | int k =>
    obtain ⟨-, hread, hk⟩ := value_eq_int_iff.mp h
    have hnonneg : 0 ≤ k := nonneg_of_value_eq_int h
    have hsame : SameNumber (ofInt k) n.toBinary64 := sameNumber_ofInt hread hk
    refine hsame.eq_of_isNegative ?_
    rw [n.isNegative_toBinary64, ofInt, ofQuotient, isNegative_ofUnits]
    exact decide_eq_false (by omega)

/-- A literal is an integer exactly if it has no point and is read as a small
integer. -/
theorem isInt_value_iff (n : Literal) :
    n.value.isInt = true ↔ '.' ∉ n.text.toList ∧ n.toBinary64.IsSmallInteger := by
  rw [Number.isInt_iff, IsSmallInteger]
  simp only [value_eq_int_iff, fraction_eq_nil_iff]
  exact exists_and_left

end Literal

/-! ## Operators -/

/-- What an operator computes by the standard. -/
def Operator.plain : Operator → Binary64 → Binary64 → Binary64
  | plus => Binary64.add
  | minus => Binary64.sub
  | times => Binary64.mul
  | divide => ieeeDiv

section Operators

variable {op : Operator} {x y : Binary64}

theorem Operator.apply_eq_plain (op : Operator) (x y : Binary64) :
    op.apply x y = op.plain x y := by
  cases op with
  | plus => rfl
  | minus => rfl
  | times => rfl
  | divide => exact div_eq_ieeeDiv x y

/-- The sign of a zero on the left of an operator does not matter. -/
theorem Operator.sameNumber_apply (op : Operator) (h : SameNumber x y) (z : Binary64) :
    SameNumber (op.apply x z) (op.apply y z) := by
  cases op with
  | plus => exact h.add z
  | minus => exact h.sub z
  | times => exact h.mul z
  | divide => exact h.div z

/-- An operator gives an integer exactly if it is applied to two of them and
computes a small integer. -/
theorem Operator.isInt_combine_iff {left right : Number} :
    (op.combine left right).isInt = true ↔ left.isInt = true ∧ right.isInt = true ∧
      (op.apply left.toBinary64 right.toBinary64).IsSmallInteger := by
  rw [Number.isInt_iff, IsSmallInteger]
  simp only [combine, Number.ofBinary64_eq_int_iff, Bool.and_eq_true, and_assoc,
    exists_and_left]

end Operators

/-! ## Chains -/

namespace Chain

/-- The value of a chain in binary64 alone. -/
def plain : Chain → Binary64
  | last n => n.toBinary64
  | link n op rest => op.plain (plain rest) n.toBinary64

/-- What an operator is applied to in a chain is the same number as without
integers, and its result is too. -/
theorem sameNumber_step {rest : Chain} (h : rest.value.Denotes rest.plain) (n : Literal)
    (op : Operator) :
    SameNumber (op.apply rest.value.toBinary64 n.value.toBinary64) (link n op rest).plain := by
  have hleft : SameNumber rest.value.toBinary64 rest.plain :=
    h.sameNumber fun k => natAbs_le_of_value
  rw [n.toBinary64_value, plain, ← op.apply_eq_plain]
  exact op.sameNumber_apply hleft n.toBinary64

/-- The value of a chain is the same number as its value in binary64 alone. -/
theorem denotes_plain (c : Chain) : c.value.Denotes c.plain := by
  induction c with
  | last n => exact Number.denotes_ofBinary64 _ _
  | link n op rest ih =>
    exact (Number.denotes_ofBinary64 _ _).trans (sameNumber_step ih n op)

/-- Whether no literal of a chain has a point, and all literals and partial
results are small integers when computed in binary64 alone. -/
def IsPlainlyInteger : Chain → Prop :=
  Throughout (fun n => '.' ∉ n.text.toList ∧ n.toBinary64.IsSmallInteger)
    fun d => d.plain.IsSmallInteger

/-- The value of a chain is held as an integer exactly if it is one plainly. -/
theorem isInt_value_iff (c : Chain) : c.value.isInt = true ↔ c.IsPlainlyInteger := by
  induction c with
  | last n =>
    rw [IsPlainlyInteger, throughout_last, value, n.isInt_value_iff, plain]
    exact ⟨fun h => ⟨h, h.2⟩, And.left⟩
  | link n op rest ih =>
    have hstep := sameNumber_step rest.denotes_plain n op
    rw [value, Operator.isInt_combine_iff, n.isInt_value_iff, ih, hstep.isSmallInteger_iff]
    rw [IsPlainlyInteger, throughout_link]
    exact and_comm

end Chain

/-! ## Evaluating a line -/

/-- A line evaluates to the same number as in binary64 alone.  The number is
held as an integer exactly if no literal has a point and all literals and
partial results in binary64 are small integers. -/
theorem eval_denotes_plain {line : String} {number : Int} {node : Node}
    (hresult : (compileLine line number).result = .ok node) (hnode : node.IsExpression) :
    ∃ c : Chain, c.tokens = lineTokens (some line) ∧
      ∃ v : Number, node.eval = .ok (.number v) ∧ v.Denotes c.plain ∧
        (v.isInt = true ↔ c.IsPlainlyInteger) := by
  obtain ⟨c, hc, rfl⟩ := exists_chain_of_isExpression hresult hnode
  exact ⟨c, hc, c.value, c.eval_tree, c.denotes_plain, c.isInt_value_iff⟩

/-- The chain of a negative number times zero, divided by a literal. -/
def negativeZeroQuotient : Chain :=
  .link limitLiteral .divide negativeTimesZero

/-- In binary64 alone the dividend is a negative zero, and so is the quotient;
the line evaluates to the integer zero, which has no sign. -/
theorem eval_negativeZeroQuotient :
    (compileLine "9007199254740992 / 0 * 9007199254740992 - 0" 1).result =
        .ok negativeZeroQuotient.tree ∧
      negativeZeroQuotient.plain = zero true ∧
      negativeZeroQuotient.tree.eval = .ok (.number (.int 0)) := by
  have hline : lineTokens (some "9007199254740992 / 0 * 9007199254740992 - 0") =
      negativeZeroQuotient.tokens := by decide
  have hresult := congrArg Parser.Step.result (compileLine_chain _ 1 hline)
  obtain ⟨c, hc, v, heval, hdenotes, hint⟩ := eval_denotes_plain hresult trivial
  obtain rfl := Chain.tokens_injective (hc.trans hline)
  have hplain : negativeZeroQuotient.plain = zero true := by decide +kernel
  have hvalue : negativeZeroQuotient.value.isInt = true := by decide +kernel
  have hv : v.isInt = true := hint.mpr ((Chain.isInt_value_iff _).mp hvalue)
  obtain ⟨k, rfl⟩ := Number.isInt_iff.mp hv
  have hk : negativeZeroQuotient.plain.toInt? = some k := hdenotes
  rw [hplain, toInt?_zero] at hk
  obtain rfl := Option.some.inj hk
  exact ⟨hresult, hplain, heval⟩

end LineArithmetic
