import LineArithmetic.Proofs.Quotients

/-!
# Rounded literals

A literal spells a decimal of any length, and its number is this decimal rounded once, by
the standard (`Literal.isRounding_toBinary64`).  So the number is infinite exactly from
`overflowLimit` on, and the order of decimals is the order of numbers.

Whether the number is held as an integer is asked after rounding.  Behind `2 ^ 53` lie
decimals that are rounded down to it; since rounding keeps the order, their number is
exactly `2 ^ 53` and no other one (`Literal.isInt_value_iff_toRat_le`).
-/

namespace LineArithmetic

open Binary64

namespace Binary64

/-- A number that is held as an integer is this integer as a rational number. -/
theorem toRat_of_toInt?_eq {x : Binary64} {k : Int} (h : x.toInt? = some k) : x.toRat = k := by
  obtain ⟨s, rank, rfl, hunits, hsign⟩ := finite_of_toInt?_eq h
  have hunit : (unitsPerOne : ℚ) ≠ 0 := Nat.cast_ne_zero.mpr unitsPerOne_pos.ne'
  have hproduct := signed_mul s false k.natAbs unitsPerOne
  rw [hsign, signed_false, Bool.bne_false] at hproduct
  rw [toRat, signedUnits_finite, hunits, hproduct, Int.cast_mul, Int.cast_natCast,
    mul_div_cancel_right₀ _ hunit]

theorem isFinite_of_toInt?_eq {x : Binary64} {k : Int} (h : x.toInt? = some k) :
    x.isFinite = true := by
  obtain ⟨s, rank, rfl, -⟩ := finite_of_toInt?_eq h
  rfl

theorem toRat_zero (s : Bool) : (zero s).toRat = 0 := by
  rw [toRat_of_toInt?_eq (toInt?_zero s), Int.cast_zero]

end Binary64

/-! ## Numbers of a line in order -/

namespace Number

/-- A number of a line among the rational numbers and the two infinities. -/
def extended? : Number → Option (WithBot (WithTop ℚ))
  | .int k => some ((k : ℚ) : WithTop ℚ)
  | .float x => x.extended?

/-- Whether a number of a line is at most another one. -/
def IsAtMost (v w : Number) : Prop :=
  ∃ p q, v.extended? = some p ∧ w.extended? = some q ∧ p ≤ q

variable {v w : Number} {x y : Binary64}

/-- Holding a number as an integer does not change where it lies. -/
theorem Denotes.extended?_eq (h : v.Denotes x) : v.extended? = x.extended? := by
  cases v with
  | int k =>
    have hread : x.toInt? = some k := h
    rw [extended?_of_isFinite (isFinite_of_toInt?_eq hread), toRat_of_toInt?_eq hread]
    rfl
  | float y =>
    have hsame : SameNumber y x := h
    rcases hsame.eq_or_zeros with rfl | ⟨s, t, rfl, rfl⟩
    · rfl
    · show (zero s).extended? = (zero t).extended?
      rw [extended?_of_isFinite rfl, extended?_of_isFinite rfl, toRat_zero, toRat_zero]

theorem Denotes.isAtMost (hv : v.Denotes x) (hw : w.Denotes y) (h : x.IsAtMost y) :
    v.IsAtMost w := by
  unfold IsAtMost
  rw [hv.extended?_eq, hw.extended?_eq]
  exact h

end Number

/-! ## Literals -/

namespace Literal

/-- The number of a literal is the decimal that it spells, rounded by the standard. -/
theorem isRounding_toBinary64 (n : Literal) : n.toBinary64.IsRounding n.exact := by
  have hten : 0 < 10 ^ n.fraction.length := Nat.pow_pos (by decide)
  have hround := isRounding_ofUnits false
    (Text.digitsValue (n.whole ++ n.fraction) * unitsPerOne) hten
  have hunit : (unitsPerOne : ℚ) ≠ 0 := Nat.cast_ne_zero.mpr unitsPerOne_pos.ne'
  have hexact : (signed false (Text.digitsValue (n.whole ++ n.fraction) * unitsPerOne) : ℚ) /
      (10 ^ n.fraction.length * unitsPerOne : Nat) = n.exact := by
    rw [signed_false, Int.cast_natCast, Nat.cast_mul, Nat.cast_mul, mul_div_mul_right _ _ hunit,
      Nat.cast_pow, Nat.cast_ofNat, exact]
  rw [hexact] at hround
  have hpower : (-(n.fraction.length : Int)).toNat = 0 := by omega
  rw [toBinary64, ofDecimal_eq_ofQuotient, hpower, pow_zero, Nat.mul_one, Int.neg_neg,
    Int.toNat_natCast, ofQuotient]
  exact hround

theorem denotes_value (n : Literal) : n.value.Denotes n.toBinary64 :=
  Number.denotes_ofBinary64 _ _

/-- The number of a literal is infinite from the limit on, and else a nearest one. -/
theorem toBinary64_cases (n : Literal) :
    (overflowLimit ≤ n.exact ∧ n.toBinary64 = .infinite false) ∨
      (n.exact < overflowLimit ∧ n.toBinary64.IsNearest n.exact) := by
  rcases n.isRounding_toBinary64.cases with ⟨hlow, -⟩ | ⟨hsmall, hnearest⟩ | ⟨hlarge, hinfinite⟩
  · have hpos := overflowLimit_pos
    have hnonneg := n.exact_nonneg
    linarith
  · exact Or.inr ⟨(le_abs_self n.exact).trans_lt hsmall, hnearest⟩
  · exact Or.inl ⟨hlarge, hinfinite⟩

theorem toBinary64_ne_nan (n : Literal) : n.toBinary64 ≠ .nan := by
  rcases n.toBinary64_cases with ⟨-, hinfinite⟩ | ⟨-, hnearest⟩
  · rw [hinfinite]
    exact Binary64.noConfusion
  · intro hnan
    have hfinite := hnearest.isFinite
    rw [hnan] at hfinite
    cases hfinite

/-- Literals saturate at the limit. -/
theorem value_eq_infinite_iff (n : Literal) :
    n.value = .float (.infinite false) ↔ overflowLimit ≤ n.exact := by
  constructor
  · intro hvalue
    have hinfinite := Number.ofBinary64_eq_float hvalue
    rcases n.toBinary64_cases with ⟨hlarge, -⟩ | ⟨-, hnearest⟩
    · exact hlarge
    · have hfinite := hnearest.isFinite
      rw [← hinfinite] at hfinite
      cases hfinite
  · intro hlarge
    rcases n.toBinary64_cases with ⟨-, hinfinite⟩ | ⟨hsmall, -⟩
    · rw [value, hinfinite]
      rfl
    · exact absurd hlarge (not_le.mpr hsmall)

theorem isNearest_of_isFinite {n : Literal} (hfinite : n.toBinary64.isFinite = true) :
    n.toBinary64.IsNearest n.exact := by
  rcases n.toBinary64_cases with ⟨-, hinfinite⟩ | ⟨-, hnearest⟩
  · rw [hinfinite] at hfinite
    cases hfinite
  · exact hnearest

/-- A decimal behind `2 ^ 53` is not rounded below it. -/
theorem two_pow_le_toRat {n : Literal} (hfinite : n.toBinary64.isFinite = true)
    (hle : 2 ^ 53 ≤ n.exact) : 2 ^ 53 ≤ n.toBinary64.toRat := by
  obtain ⟨k, hexact, hvalue⟩ := limitLiteral.exists_value_eq (by decide) limitLiteral_exact.le
  obtain ⟨-, hread, -⟩ := value_eq_int_iff.mp hvalue
  have hlimit := isNearest_of_isFinite (isFinite_of_toInt?_eq hread)
  have horder := hlimit.toRat_le (isNearest_of_isFinite hfinite) (limitLiteral_exact.trans_le hle)
  rwa [toRat_of_toInt?_eq hread, ← hexact, limitLiteral_exact] at horder

/-- A literal without a point is held as an integer exactly if it is not rounded beyond
`2 ^ 53`. -/
theorem isInt_value_iff_toRat_le (n : Literal) :
    n.value.isInt = true ↔
      '.' ∉ n.text.toList ∧ n.toBinary64.isFinite = true ∧ n.toBinary64.toRat ≤ 2 ^ 53 := by
  rw [n.isInt_value_iff]
  constructor
  · rintro ⟨hpoint, k, hread, hk⟩
    refine ⟨hpoint, isFinite_of_toInt?_eq hread, ?_⟩
    have hle : k ≤ 2 ^ 53 := by omega
    rw [toRat_of_toInt?_eq hread]
    exact_mod_cast hle
  · rintro ⟨hpoint, hfinite, hle⟩
    refine ⟨hpoint, ?_⟩
    rcases le_or_gt n.exact (2 ^ 53) with hsmall | hlarge
    · obtain ⟨k, -, hvalue⟩ := n.exists_value_eq hpoint hsmall
      obtain ⟨-, hread, hk⟩ := value_eq_int_iff.mp hvalue
      exact ⟨k, hread, hk⟩
    · -- the order leaves no number but `2 ^ 53`
      have hrat : n.toBinary64.toRat = (2 ^ 53 : Int) := by
        push_cast
        exact le_antisymm hle (two_pow_le_toRat hfinite hlarge.le)
      exact ⟨2 ^ 53, toInt?_of_toRat_eq hfinite hrat, by decide⟩

/-- Greater decimals have greater numbers, up to rounding. -/
theorem isAtMost_value {n m : Literal} (h : n.exact ≤ m.exact) : n.value.IsAtMost m.value :=
  n.denotes_value.isAtMost m.denotes_value
    (n.isRounding_toBinary64.isAtMost m.isRounding_toBinary64 h)

/-- A literal of any length has a numeral.  Its value is the decimal that it spells,
rounded by the standard: it is infinite exactly from the limit on, never negative, not even
a zero with a sign, and it is always a number.  It is held as an integer exactly if the
literal has no point and is not rounded beyond `2 ^ 53`.  Literals are ordered as their
decimals are. -/
theorem ofLiteral_rounded (n : Literal) :
    ∃ (numeral : Numeral) (x : Binary64), Node.ofLiteral n.text = .ok (.number numeral) ∧
      numeral.literal = n.text ∧ x.IsRounding n.exact ∧
      numeral.value.extended? = x.extended? ∧ (∀ y, numeral.value = .float y → y = x) ∧
      (numeral.value = .float (.infinite false) ↔ overflowLimit ≤ n.exact) ∧
      (x ≠ .nan ∧ x.isNegative = false ∧ ∀ k, numeral.value = .int k → 0 ≤ k) ∧
      (numeral.value.isInt = true ↔
        '.' ∉ n.text.toList ∧ x.isFinite = true ∧ x.toRat ≤ 2 ^ 53) ∧
      ∀ (m : Literal) (other : Numeral), Node.ofLiteral m.text = .ok (.number other) →
        n.exact ≤ m.exact → numeral.value.IsAtMost other.value := by
  refine ⟨n.numeral, n.toBinary64, n.ofLiteral_text, rfl, n.isRounding_toBinary64,
    n.denotes_value.extended?_eq, fun y => Number.ofBinary64_eq_float,
    n.value_eq_infinite_iff,
    ⟨n.toBinary64_ne_nan, n.isNegative_toBinary64, fun k => nonneg_of_value_eq_int⟩,
    n.isInt_value_iff_toRat_le, ?_⟩
  intro m other hother hle
  rw [m.ofLiteral_text] at hother
  obtain rfl := Node.number.inj (Except.ok.inj hother)
  exact isAtMost_value hle

end Literal

/-- The halfway number written with a point. -/
def halfwayDecimal : Literal := ⟨"9007199254740993.0", by decide⟩

theorem halfwayDecimal_exact : halfwayDecimal.exact = halfway := by
  have hdigits : Text.digitsValue (halfwayDecimal.whole ++ halfwayDecimal.fraction) =
      (2 ^ 53 + 1) * 10 := by decide
  have hlength : halfwayDecimal.fraction.length = 1 := by decide
  rw [Literal.exact, hdigits, hlength, halfway]
  norm_num

/-- With and without a point the halfway number is rounded to the same number, which is
held as an integer only without one. -/
theorem ofLiteral_halfway :
    ∃ v w : Numeral, Node.ofLiteral "9007199254740993" = .ok (.number v) ∧
      Node.ofLiteral "9007199254740993.0" = .ok (.number w) ∧
      v.value = .int (2 ^ 53) ∧ w.value.isInt = false ∧
      v.value.IsAtMost w.value ∧ w.value.IsAtMost v.value := by
  obtain ⟨v, x, hv, -, -, -, -, -, -, -, hvorder⟩ := Literal.ofLiteral_rounded halfwayLiteral
  obtain ⟨w, y, hw, -, -, -, -, -, -, hwint, hworder⟩ := Literal.ofLiteral_rounded halfwayDecimal
  have hvalue : halfwayLiteral.numeral.value = .int (2 ^ 53) := by decide +kernel
  have hnumeral := hv
  rw [halfwayLiteral.ofLiteral_text] at hnumeral
  obtain rfl := Node.number.inj (Except.ok.inj hnumeral)
  have hsame : halfwayLiteral.exact = halfwayDecimal.exact :=
    halfwayLiteral_exact.trans halfwayDecimal_exact.symm
  refine ⟨halfwayLiteral.numeral, w, hv, hw, hvalue, ?_, hvorder _ w hw hsame.le,
    hworder _ _ hv hsame.ge⟩
  rw [Bool.eq_false_iff]
  intro hint
  exact (hwint.mp hint).1 (by decide)

end LineArithmetic
