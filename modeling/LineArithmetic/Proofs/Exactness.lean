import LineArithmetic.Proofs.Binary64.Decimals
import LineArithmetic.Proofs.Compilation
import LineArithmetic.Proofs.Evaluation
import Mathlib.Data.Rat.Cast.Order
import Mathlib.Tactic.NormNum

/-!
# Exact values

The exact value of a chain is computed as its value is, but over the rationals
and without rounding; a division by zero leaves it without an exact value.

A line of small integers without points whose partial results are small
integers has its exact value.  The converse fails at one number: `2 ^ 53 + 1`
is rounded to `2 ^ 53`, which is small enough to be held as an integer.
`Chain.settled` is the exact value of a chain in which this one number is
replaced wherever it arises, and `Chain.settled_eq_of_value` says that every
integer value is this one.  So an integer value is held exactly throughout if,
and only if, that number arises nowhere.
-/

namespace LineArithmetic

open Binary64

/-! ## Exact values of literals and operators -/

namespace Literal

/-- The decimal that a literal spells. -/
def exact (n : Literal) : ℚ :=
  Text.digitsValue (n.whole ++ n.fraction) / 10 ^ n.fraction.length

theorem exact_nonneg (n : Literal) : 0 ≤ n.exact :=
  div_nonneg (Nat.cast_nonneg _) (by positivity)

/-- A literal without a point spells a natural number. -/
theorem exact_eq {n : Literal} (h : n.fraction = []) : n.exact = Text.digitsValue n.whole := by
  rw [exact, h, List.append_nil, List.length_nil, pow_zero, div_one]

/-- A literal without a point is its number rounded once. -/
theorem isRounded_toBinary64 {n : Literal} (h : n.fraction = []) :
    IsRounded n.toBinary64 (Text.digitsValue n.whole) := by
  rw [toBinary64, h, List.append_nil, List.length_nil, Nat.cast_zero, neg_zero,
    ofDecimal_eq_ofQuotient]
  generalize Text.digitsValue n.whole = digits
  refine ⟨false, 1, Nat.one_pos, by rw [Int.natAbs_natCast, signed_false], ?_⟩
  rw [Int.natAbs_natCast, Int.neg_zero, Int.toNat_zero, pow_zero, Nat.mul_one, Nat.mul_one,
    ofQuotient]

end Literal

/-- What an operator computes exactly; dividing by zero has no result. -/
def Operator.result? : Operator → ℚ → ℚ → Option ℚ
  | plus, a, b => some (a + b)
  | minus, a, b => some (a - b)
  | times, a, b => some (a * b)
  | divide, a, b => if b = 0 then none else some (a / b)

section Operators

variable {op : Operator} {l r z : ℤ}

/-- An exact integer result of small integers is rounded once. -/
theorem Operator.isRounded_apply (hl : l.natAbs ≤ 2 ^ 53) (hr : r.natAbs ≤ 2 ^ 53)
    (h : op.result? l r = some (z : ℚ)) : IsRounded (op.apply (ofInt l) (ofInt r)) z := by
  cases op with
  | plus =>
    obtain rfl : l + r = z := by exact_mod_cast Option.some.inj h
    exact isRounded_add hl hr
  | minus =>
    obtain rfl : l - r = z := by exact_mod_cast Option.some.inj h
    exact isRounded_sub hl hr
  | times =>
    obtain rfl : l * r = z := by exact_mod_cast Option.some.inj h
    exact isRounded_mul hl hr
  | divide =>
    rw [result?] at h
    split at h
    · cases h
    · rename_i hne
      have hquotient : l = z * r := by
        have hdiv := (div_eq_iff hne).mp (Option.some.inj h)
        exact_mod_cast hdiv
      exact isRounded_div hl hr (by exact_mod_cast hne) hquotient

/-- An operator that computes an integer from small integers has an exact
result, and this is an integer too. -/
theorem Operator.exists_result? {k : ℤ} (hl : l.natAbs ≤ 2 ^ 53) (hr : r.natAbs ≤ 2 ^ 53)
    (h : (op.apply (ofInt l) (ofInt r)).toInt? = some k) :
    ∃ z : ℤ, op.result? l r = some (z : ℚ) := by
  cases op with
  | plus => exact ⟨l + r, by rw [result?]; push_cast; rfl⟩
  | minus => exact ⟨l - r, by rw [result?]; push_cast; rfl⟩
  | times => exact ⟨l * r, by rw [result?]; push_cast; rfl⟩
  | divide =>
    have hne : r ≠ 0 := by
      rintro rfl
      rw [apply, toInt?_div_zero] at h
      cases h
    have hcast : (r : ℚ) ≠ 0 := by exact_mod_cast hne
    have hquotient : l = k * r := eq_mul_of_toInt?_div hl hr hne h
    refine ⟨k, ?_⟩
    rw [result?, if_neg hcast, hquotient, Int.cast_mul, mul_div_cancel_right₀ _ hcast]

end Operators

/-! ## Exact values of chains -/

namespace Chain

/-- The exact value of a chain. -/
def exact : Chain → Option ℚ
  | last n => some n.exact
  | link n op rest => (exact rest).bind fun q => op.result? q n.exact

/-- Whether a property holds of all literals of a chain, and another one of all
chains that it ends with. -/
def Throughout (P : Literal → Prop) (Q : Chain → Prop) (c : Chain) : Prop :=
  (∀ n ∈ c.literals, P n) ∧ ∀ d ∈ c.suffixes, Q d

section Throughout

variable {P : Literal → Prop} {Q : Chain → Prop} {n : Literal} {op : Operator} {rest : Chain}

@[simp] theorem throughout_last : (last n).Throughout P Q ↔ P n ∧ Q (last n) := by
  simp [Throughout, literals, suffixes]

@[simp] theorem throughout_link :
    (link n op rest).Throughout P Q ↔ (P n ∧ Q (link n op rest)) ∧ rest.Throughout P Q := by
  simp only [Throughout, literals, suffixes, List.forall_mem_cons]
  tauto

end Throughout

end Chain

/-! ## Small integers -/

/-- A small literal without a point is held exactly. -/
theorem Literal.exists_value_eq {n : Literal} (hpoint : '.' ∉ n.text.toList)
    (hle : n.exact ≤ 2 ^ 53) : ∃ r : ℤ, n.exact = r ∧ n.value = .int r := by
  have hfraction : n.fraction = [] := n.fraction_eq_nil_iff.mpr hpoint
  rw [exact_eq hfraction] at hle ⊢
  have hsmall : (Text.digitsValue n.whole : ℤ).natAbs ≤ 2 ^ 53 := by
    rw [Int.natAbs_natCast]
    exact_mod_cast hle
  refine ⟨Text.digitsValue n.whole, (Int.cast_natCast _).symm, ?_⟩
  exact value_eq_int_iff.mpr
    ⟨hfraction, (isRounded_toBinary64 hfraction).toInt?_eq hsmall, hsmall⟩

/-- An exact result of small integers that is a small integer is held exactly. -/
theorem Operator.combine_int {op : Operator} {l r z : ℤ} (hl : l.natAbs ≤ 2 ^ 53)
    (hr : r.natAbs ≤ 2 ^ 53) (hz : z.natAbs ≤ 2 ^ 53) (h : op.result? l r = some (z : ℚ)) :
    op.combine (.int l) (.int r) = .int z :=
  combine_eq_int_iff.mpr ⟨l, r, rfl, rfl, (isRounded_apply hl hr h).toInt?_eq hz, hz⟩

namespace Chain

/-- Whether all literals of a chain are small and without a point, and all its
partial results are small integers. -/
def IsSmall : Chain → Prop :=
  Throughout (fun n => '.' ∉ n.text.toList ∧ n.exact ≤ 2 ^ 53)
    fun d => ∃ z : ℤ, d.exact = some (z : ℚ) ∧ |z| ≤ 2 ^ 53

/-- The value of a chain of small integers is its exact value. -/
theorem IsSmall.exists_value_eq {c : Chain} (h : c.IsSmall) :
    ∃ z : ℤ, c.exact = some (z : ℚ) ∧ c.value = .int z := by
  induction c with
  | last n =>
    obtain ⟨⟨hpoint, hle⟩, -⟩ := throughout_last.mp h
    obtain ⟨z, hexact, hvalue⟩ := n.exists_value_eq hpoint hle
    exact ⟨z, congrArg some hexact, hvalue⟩
  | link n op rest ih =>
    obtain ⟨⟨⟨hpoint, hle⟩, z, hexact, hz⟩, hrest⟩ := throughout_link.mp h
    obtain ⟨l, hleft, hl⟩ := ih hrest
    obtain ⟨r, hright, hr⟩ := n.exists_value_eq hpoint hle
    have hlsmall : l.natAbs ≤ 2 ^ 53 := natAbs_le_of_value hl
    have hrsmall : r.natAbs ≤ 2 ^ 53 := n.natAbs_le_of_value hr
    have hstep : op.result? l r = some (z : ℚ) := by
      rw [← hexact, exact, hleft, hright, Option.bind_some]
    have hzsmall : z.natAbs ≤ 2 ^ 53 := by
      rw [Int.abs_eq_natAbs] at hz
      exact_mod_cast hz
    have hcombine := Operator.combine_int hlsmall hrsmall hzsmall hstep
    exact ⟨z, hexact, by rw [value, hl, hr, hcombine]⟩

end Chain

/-! ## The number halfway behind the small integers -/

/-- The one natural number that is rounded onto a small integer without being
small. -/
def halfway : ℚ := 2 ^ 53 + 1

/-- What the halfway number is rounded to; other numbers are left alone. -/
def settle (q : ℚ) : ℚ :=
  if q = halfway then 2 ^ 53 else if q = -halfway then -2 ^ 53 else q

theorem settle_of_ne {q : ℚ} (hpos : q ≠ halfway) (hneg : q ≠ -halfway) : settle q = q := by
  rw [settle, if_neg hpos, if_neg hneg]

theorem ne_halfway_of_natAbs_le {z : ℤ} (h : z.natAbs ≤ 2 ^ 53) :
    (z : ℚ) ≠ halfway ∧ (z : ℚ) ≠ -halfway := by
  unfold halfway
  constructor
  · intro heq
    have hz : z = 2 ^ 53 + 1 := by exact_mod_cast heq
    omega
  · intro heq
    have hz : z = -(2 ^ 53 + 1) := by exact_mod_cast heq
    omega

/-- An integer rounded to a small integer is settled to it. -/
theorem settle_eq_of_isRounded {x : Binary64} {z k : ℤ} (h : IsRounded x z)
    (hx : x.toInt? = some k) (hk : k.natAbs ≤ 2 ^ 53) : settle z = k := by
  rcases h.eq_or_halfway hx hk with rfl | ⟨rfl, rfl⟩ | ⟨rfl, rfl⟩
  · obtain ⟨hpos, hneg⟩ := ne_halfway_of_natAbs_le hk
    exact settle_of_ne hpos hneg
  · norm_num [settle, halfway]
  · norm_num [settle, halfway]

/-- An integer literal is the number it spells, settled. -/
theorem Literal.settle_exact {n : Literal} {k : ℤ} (h : n.value = .int k) :
    settle n.exact = k := by
  obtain ⟨hfraction, hread, hk⟩ := value_eq_int_iff.mp h
  rw [exact_eq hfraction]
  exact_mod_cast settle_eq_of_isRounded (isRounded_toBinary64 hfraction) hread hk

/-- Unless it is the halfway number, an integer literal is held exactly. -/
theorem Literal.exact_eq_of_value {n : Literal} {k : ℤ} (h : n.value = .int k)
    (hne : n.exact ≠ halfway) : n.exact = k := by
  have hneg : n.exact ≠ -halfway := by
    have hnonneg := n.exact_nonneg
    intro heq
    rw [heq] at hnonneg
    norm_num [halfway] at hnonneg
  rw [← n.settle_exact h, settle_of_ne hne hneg]

/-- An integer computed from small integers is the exact result, settled. -/
theorem Operator.settle_result? {op : Operator} {l r k : ℤ} (hl : l.natAbs ≤ 2 ^ 53)
    (hr : r.natAbs ≤ 2 ^ 53) (h : (op.apply (ofInt l) (ofInt r)).toInt? = some k)
    (hk : k.natAbs ≤ 2 ^ 53) : (op.result? l r).map settle = some (k : ℚ) := by
  obtain ⟨z, hz⟩ := exists_result? hl hr h
  rw [hz, Option.map_some, settle_eq_of_isRounded (isRounded_apply hl hr hz) h hk]

namespace Chain

/-- The exact value of a chain in which every literal and every partial result
is settled. -/
def settled : Chain → Option ℚ
  | last n => some (settle n.exact)
  | link n op rest => (settled rest).bind fun q => (op.result? q (settle n.exact)).map settle

/-- An integer value of a chain comes from integer values of its parts, and is
rounded once more. -/
theorem value_link_eq_int {n : Literal} {op : Operator} {rest : Chain} {k : ℤ}
    (h : (link n op rest).value = .int k) :
    ∃ l r : ℤ, rest.value = .int l ∧ n.value = .int r ∧
      (op.result? l r).map settle = some (k : ℚ) := by
  obtain ⟨l, r, hl, hr, hcompute, hk⟩ := Operator.combine_eq_int_iff.mp h
  have hlsmall : l.natAbs ≤ 2 ^ 53 := natAbs_le_of_value hl
  have hrsmall : r.natAbs ≤ 2 ^ 53 := n.natAbs_le_of_value hr
  exact ⟨l, r, hl, hr, Operator.settle_result? hlsmall hrsmall hcompute hk⟩

/-- An integer value is the settled exact value. -/
theorem settled_eq_of_value {c : Chain} {k : ℤ} (h : c.value = .int k) :
    c.settled = some (k : ℚ) := by
  induction c generalizing k with
  | last n => rw [settled, n.settle_exact h]
  | link n op rest ih =>
    obtain ⟨l, r, hl, hr, hstep⟩ := value_link_eq_int h
    rw [settled, ih hl, n.settle_exact hr, Option.bind_some, hstep]

/-- Whether all literals and partial results are held as integers that are
their exact values. -/
def HeldExactly : Chain → Prop :=
  Throughout (fun n => ∃ k : ℤ, n.value = .int k ∧ n.exact = k)
    fun d => ∃ k : ℤ, d.value = .int k ∧ d.exact = some (k : ℚ)

/-- Whether no literal and no partial result is the halfway number. -/
def AvoidsHalfway : Chain → Prop :=
  Throughout (fun n => n.exact ≠ halfway)
    fun d => d.exact ≠ some halfway ∧ d.exact ≠ some (-halfway)

/-- What is held exactly is a small integer, so it is not the halfway number. -/
theorem HeldExactly.avoidsHalfway {c : Chain} (h : c.HeldExactly) : c.AvoidsHalfway := by
  constructor
  · intro n hn
    obtain ⟨k, hk, hexact⟩ := h.1 n hn
    rw [hexact]
    exact (ne_halfway_of_natAbs_le (n.natAbs_le_of_value hk)).1
  · intro d hd
    obtain ⟨k, hk, hexact⟩ := h.2 d hd
    obtain ⟨hpos, hneg⟩ := ne_halfway_of_natAbs_le (natAbs_le_of_value hk)
    rw [hexact]
    exact ⟨fun heq => hpos (Option.some.inj heq), fun heq => hneg (Option.some.inj heq)⟩

theorem HeldExactly.exact_eq {c : Chain} {k : ℤ} (h : c.HeldExactly) (hk : c.value = .int k) :
    c.exact = some (k : ℚ) := by
  obtain ⟨l, hl, hexact⟩ := h.2 c c.mem_suffixes_self
  rw [hl] at hk
  rw [hexact, Number.int.inj hk]

/-- A chain with an integer value that avoids the halfway number is held exactly:
settling changes nothing on the way. -/
theorem AvoidsHalfway.heldExactly {c : Chain} {k : ℤ} (h : c.AvoidsHalfway)
    (hk : c.value = .int k) : c.HeldExactly := by
  induction c generalizing k with
  | last n =>
    obtain ⟨hne, -⟩ := throughout_last.mp h
    have hexact := n.exact_eq_of_value hk hne
    exact throughout_last.mpr ⟨⟨k, hk, hexact⟩, k, hk, congrArg some hexact⟩
  | link n op rest ih =>
    obtain ⟨⟨hne, hresult⟩, hrest⟩ := throughout_link.mp h
    obtain ⟨l, r, hl, hr, hstep⟩ := value_link_eq_int hk
    have hheld : rest.HeldExactly := ih hrest hl
    have hright := n.exact_eq_of_value hr hne
    have hexact : (link n op rest).exact = op.result? l r := by
      rw [exact, hheld.exact_eq hl, Option.bind_some, hright]
    rw [← hexact] at hstep
    obtain ⟨q, hq, hsettle⟩ := Option.map_eq_some_iff.mp hstep
    rw [hq] at hresult
    have hsame : settle q = q :=
      settle_of_ne (fun heq => hresult.1 (congrArg some heq))
        fun heq => hresult.2 (congrArg some heq)
    rw [hsame] at hsettle
    rw [hsettle] at hq
    exact throughout_link.mpr ⟨⟨⟨r, hr, hright⟩, k, hk, hq⟩, hheld⟩

end Chain

/-! ## Literals at the limit -/

/-- The literal of zero. -/
def zeroLiteral : Literal := ⟨"0", by decide⟩

/-- The literal of the largest small integer. -/
def limitLiteral : Literal := ⟨"9007199254740992", by decide⟩

/-- The literal of the halfway number. -/
def halfwayLiteral : Literal := ⟨"9007199254740993", by decide⟩

theorem zeroLiteral_exact : zeroLiteral.exact = 0 := by
  have hdigits : Text.digitsValue zeroLiteral.whole = 0 := by decide
  rw [Literal.exact_eq (by decide), hdigits, Nat.cast_zero]

theorem limitLiteral_exact : limitLiteral.exact = 2 ^ 53 := by
  have hdigits : Text.digitsValue limitLiteral.whole = 2 ^ 53 := by decide
  rw [Literal.exact_eq (by decide), hdigits, Nat.cast_pow, Nat.cast_ofNat]

theorem halfwayLiteral_exact : halfwayLiteral.exact = halfway := by
  have hdigits : Text.digitsValue halfwayLiteral.whole = 2 ^ 53 + 1 := by decide
  rw [Literal.exact_eq (by decide), hdigits, halfway]
  norm_num

/-! ## Evaluating a line -/

section Lines

variable {line : String} {number : Int} {node : Node}

/-- A line of small integers evaluates to its exact value, as an integer. -/
theorem eval_small_integers (hresult : (compileLine line number).result = .ok node)
    (hnode : node.IsExpression) :
    ∃ c : Chain, c.tokens = lineTokens (some line) ∧
      (c.IsSmall → ∃ z : ℤ, c.exact = some (z : ℚ) ∧ node.eval = .ok (.number (.int z))) := by
  obtain ⟨c, hc, rfl⟩ := exists_chain_of_isExpression hresult hnode
  refine ⟨c, hc, fun hsmall => ?_⟩
  obtain ⟨z, hexact, hvalue⟩ := hsmall.exists_value_eq
  exact ⟨z, hexact, by rw [c.eval_tree, hvalue]⟩

/-- The chain of a negative number times zero. -/
def negativeTimesZero : Chain :=
  .link zeroLiteral .times (.link limitLiteral .minus (.last zeroLiteral))

theorem negativeTimesZero_exact : negativeTimesZero.exact = some 0 := by
  simp [negativeTimesZero, Chain.exact, Operator.result?, zeroLiteral_exact]

theorem negativeTimesZero_isSmall : negativeTimesZero.IsSmall := by
  have hzero : '.' ∉ zeroLiteral.text.toList ∧ zeroLiteral.exact ≤ 2 ^ 53 :=
    ⟨by decide, by norm_num [zeroLiteral_exact]⟩
  have hlimit : '.' ∉ limitLiteral.text.toList ∧ limitLiteral.exact ≤ 2 ^ 53 :=
    ⟨by decide, limitLiteral_exact.le⟩
  have hlast : (Chain.last zeroLiteral).exact = some 0 := by
    rw [Chain.exact, zeroLiteral_exact]
  have hinner : (Chain.link limitLiteral .minus (.last zeroLiteral)).exact = some (-2 ^ 53) := by
    rw [Chain.exact, hlast, Option.bind_some, limitLiteral_exact, Operator.result?, zero_sub]
  refine Chain.throughout_link.mpr ⟨⟨hzero, 0, ?_, by decide⟩, ?_⟩
  · exact_mod_cast negativeTimesZero_exact
  · refine Chain.throughout_link.mpr ⟨⟨hlimit, -2 ^ 53, ?_, by decide⟩, ?_⟩
    · exact_mod_cast hinner
    · exact Chain.throughout_last.mpr ⟨hzero, 0, by exact_mod_cast hlast, by decide⟩

/-- A negative number times zero is the integer zero, which has no sign. -/
theorem eval_negativeTimesZero :
    (compileLine "0 * 9007199254740992 - 0" 1).result = .ok negativeTimesZero.tree ∧
      negativeTimesZero.IsSmall ∧ negativeTimesZero.tree.eval = .ok (.number (.int 0)) := by
  have hline : lineTokens (some "0 * 9007199254740992 - 0") = negativeTimesZero.tokens := by
    decide
  have hresult := congrArg Parser.Step.result (compileLine_chain _ 1 hline)
  obtain ⟨c, hc, hsmall⟩ := eval_small_integers hresult trivial
  obtain rfl := Chain.tokens_injective (hc.trans hline)
  obtain ⟨z, hz, heval⟩ := hsmall negativeTimesZero_isSmall
  obtain rfl : z = 0 := by
    rw [negativeTimesZero_exact] at hz
    exact_mod_cast (Option.some.inj hz).symm
  exact ⟨hresult, negativeTimesZero_isSmall, heval⟩

/-- An integer that a line evaluates to is the settled exact value of the line,
so it is the exact value just when settling changes nothing in the end.  Every
literal and partial result is exact if and only if none is the halfway number. -/
theorem eval_int_exact_iff (hresult : (compileLine line number).result = .ok node)
    (hnode : node.IsExpression) :
    ∃ c : Chain, c.tokens = lineTokens (some line) ∧
      ∀ k : ℤ, node.eval = .ok (.number (.int k)) →
        c.settled = some (k : ℚ) ∧ (c.exact = some (k : ℚ) ↔ c.settled = c.exact) ∧
        (c.HeldExactly ↔ c.AvoidsHalfway) ∧ (c.AvoidsHalfway → c.exact = some (k : ℚ)) := by
  obtain ⟨c, hc, rfl⟩ := exists_chain_of_isExpression hresult hnode
  refine ⟨c, hc, fun k heval => ?_⟩
  have hk : c.value = .int k := by
    rw [c.eval_tree] at heval
    exact Value.number.inj (Except.ok.inj heval)
  have hsettled : c.settled = some (k : ℚ) := Chain.settled_eq_of_value hk
  refine ⟨hsettled, ?_, ?_, ?_⟩
  · rw [hsettled, eq_comm]
  · exact ⟨fun h => h.avoidsHalfway, fun h => h.heldExactly hk⟩
  · exact fun h => (h.heldExactly hk).exact_eq hk

/-- The chain of the halfway number times zero. -/
def halfwayTimesZero : Chain :=
  .link zeroLiteral .times (.last halfwayLiteral)

/-- The halfway number times zero is exact, though a literal is not. -/
theorem eval_halfwayTimesZero :
    halfwayTimesZero.tree.eval = .ok (.number (.int 0)) ∧ halfwayTimesZero.exact = some 0 ∧
      ¬ halfwayTimesZero.HeldExactly := by
  have hline : lineTokens (some "0 * 9007199254740993") = halfwayTimesZero.tokens := by
    decide
  have hresult := congrArg Parser.Step.result (compileLine_chain _ 1 hline)
  obtain ⟨c, hc, hint⟩ := eval_int_exact_iff hresult trivial
  obtain rfl := Chain.tokens_injective (hc.trans hline)
  have hvalue : halfwayTimesZero.value = .int 0 := by decide +kernel
  have heval : halfwayTimesZero.tree.eval = .ok (.number (.int 0)) := by
    rw [Chain.eval_tree, hvalue]
  obtain ⟨hsettled, hexact, hheld, -⟩ := hint 0 heval
  have hwhole : halfwayTimesZero.exact = some 0 := by
    simp [halfwayTimesZero, Chain.exact, Operator.result?, zeroLiteral_exact]
  have hmet : ¬ halfwayTimesZero.AvoidsHalfway := fun h =>
    h.1 halfwayLiteral (by simp [halfwayTimesZero, Chain.literals]) halfwayLiteral_exact
  refine ⟨heval, ?_, fun h => hmet (hheld.mp h)⟩
  have hsame : halfwayTimesZero.settled = halfwayTimesZero.exact := by
    rw [hsettled, hwhole, Int.cast_zero]
  exact_mod_cast hexact.mpr hsame

/-- The halfway number alone evaluates to an integer that is not its exact value. -/
theorem eval_halfwayLiteral :
    (compileLine "9007199254740993" 1).result = .ok (Chain.last halfwayLiteral).tree ∧
      (Chain.last halfwayLiteral).tree.eval = .ok (.number (.int (2 ^ 53))) ∧
      (Chain.last halfwayLiteral).exact = some (2 ^ 53 + 1) := by
  have hline : lineTokens (some "9007199254740993") = (Chain.last halfwayLiteral).tokens := by
    decide
  have hvalue : (Chain.last halfwayLiteral).value = .int (2 ^ 53) := by decide +kernel
  refine ⟨congrArg Parser.Step.result (compileLine_chain _ 1 hline), ?_, ?_⟩
  · rw [Chain.eval_tree, hvalue]
  · rw [Chain.exact, halfwayLiteral_exact, halfway]

end Lines

end LineArithmetic
