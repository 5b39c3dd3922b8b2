import LineArithmetic.Proofs.Division

/-!
# Quotients of integers

An operation on two integers is computed in binary64, and whether the result is
an integer is only asked afterwards.  For a division that is early enough: the
operands are at most `2 ^ 53` in magnitude, so rounding takes no quotient onto an
integer that is not one already (`eq_mul_of_toInt?_div`).

* `isNearest_div_ofInt`: the quotient in binary64 is what the format rounds the
  rational quotient to; it is finite, since it is no larger than the dividend.
* `Number.ofBinary64_div_ofInt`: it is held as an integer exactly if the divisor
  divides the dividend.
* `Node.eval_quotient_of_integers` says this of trees.  Every integer that a tree
  evaluates to is small enough, so no bound is assumed.
-/

namespace LineArithmetic

namespace Binary64

section Quotients

variable {a b : Int}

theorem toRat_ofInt (ha : a.natAbs ≤ 2 ^ 53) : (ofInt a).toRat = a := by
  have hunit : (unitsPerOne : ℚ) ≠ 0 := Nat.cast_ne_zero.mpr unitsPerOne_pos.ne'
  rw [toRat, signedUnits_ofInt ha, Int.cast_mul, Int.cast_natCast, mul_div_cancel_right₀ _ hunit]

/-- The quotient of small integers is nearest to the rational quotient; it is no larger
than the dividend, so it is finite. -/
theorem isNearest_div_ofInt (ha : a.natAbs ≤ 2 ^ 53) (hb : b.natAbs ≤ 2 ^ 53) (hne : b ≠ 0) :
    IsNearest (div (ofInt a) (ofInt b)) (a / b) := by
  have hround := isRounding_div (isFinite_ofInt ha) (isFinite_ofInt hb) (isZero_ofInt hb hne)
  rw [toRat_ofInt ha, toRat_ofInt hb] at hround
  refine hround.nearest (lt_of_le_of_lt ?_ two_pow_lt_overflowLimit)
  have hone : (1 : ℚ) ≤ |(b : ℚ)| := by exact_mod_cast Int.one_le_abs hne
  calc |(a : ℚ) / b| = |(a : ℚ)| / |(b : ℚ)| := abs_div _ _
    _ ≤ |(a : ℚ)| := div_le_self (abs_nonneg _) hone
    _ ≤ 2 ^ 53 := by
        rw [← Int.cast_abs, Int.abs_eq_natAbs]
        exact_mod_cast ha

/-- A finite number that is an integer as a rational number is held as one. -/
theorem toInt?_of_toRat_eq {x : Binary64} {k : Int} (hfinite : x.isFinite = true)
    (h : x.toRat = k) : x.toInt? = some k := by
  have hunit : (unitsPerOne : ℚ) ≠ 0 := Nat.cast_ne_zero.mpr unitsPerOne_pos.ne'
  cases x with
  | nan => cases hfinite
  | infinite s => cases hfinite
  | finite s rank =>
    have hunits : signed s (unitsOfRank rank) = k * unitsPerOne := by
      rw [toRat, signedUnits_finite, div_eq_iff hunit] at h
      exact_mod_cast h
    have hmagnitude : unitsOfRank rank = k.natAbs * unitsPerOne := by
      have habs := congrArg Int.natAbs hunits
      rwa [natAbs_signed, Int.natAbs_mul, Int.natAbs_natCast] at habs
    have hsign : signed s k.natAbs = k := by
      refine Int.eq_of_mul_eq_mul_right (Int.natCast_ne_zero.mpr unitsPerOne_pos.ne') ?_
      have hproduct := signed_mul s false k.natAbs unitsPerOne
      rw [Bool.bne_false, signed_false] at hproduct
      rw [← hproduct, ← hmagnitude, hunits]
    rw [toInt?_finite hmagnitude, hsign]

end Quotients

end Binary64

open Binary64

/-- The quotient of small integers is an integer exactly if the divisor divides the
dividend, and then it is the exact quotient. -/
theorem Number.ofBinary64_div_ofInt {a b k : Int} (ha : a.natAbs ≤ 2 ^ 53)
    (hb : b.natAbs ≤ 2 ^ 53) (hne : b ≠ 0) :
    ofBinary64 true (div (ofInt a) (ofInt b)) = .int k ↔ a = k * b := by
  rw [ofBinary64_eq_int_iff]
  constructor
  · rintro ⟨-, hk, -⟩
    exact eq_mul_of_toInt?_div ha hb hne hk
  · intro hmul
    have hk : k.natAbs ≤ 2 ^ 53 := by
      rw [hmul, Int.natAbs_mul] at ha
      exact (Nat.le_mul_of_pos_right _ (Int.natAbs_pos.mpr hne)).trans ha
    exact ⟨rfl, (isRounded_div ha hb hne hmul).toInt?_eq hk, hk⟩

namespace Node

/-- A division of two integers. -/
theorem eval_divide {left right : Node} {a b : Int}
    (hleft : left.eval = .ok (.number (.int a))) (hright : right.eval = .ok (.number (.int b))) :
    (binary "/" left right).eval =
      .ok (.number (.ofBinary64 true (div (ofInt a) (ofInt b)))) :=
  eval_binary_eq_ok_iff.mpr ⟨_, _, hleft, hright,
    Value.combine_eq_ok_iff.mpr ⟨div, ofInt a, ofInt b, rfl, rfl, rfl, rfl⟩⟩

/-- A division of two integers gives an integer exactly if the divisor divides the
dividend, and then the exact quotient.  Else it gives a number that is no integer and
that is the nearest one to the rational quotient. -/
theorem eval_quotient_of_integers {left right : Node} {a b : Int}
    (hleft : left.eval = .ok (.number (.int a))) (hright : right.eval = .ok (.number (.int b)))
    (hne : b ≠ 0) :
    ∃ result : Number, (binary "/" left right).eval = .ok (.number result) ∧
      ((∃ k, result = .int k) ↔ b ∣ a) ∧
      (∀ k, result = .int k → (k : ℚ) = a / b) ∧
      ∀ x, result = .float x → (∀ k : Int, x.toRat ≠ k) ∧ x.IsNearest (a / b) := by
  have ha : a.natAbs ≤ 2 ^ 53 := isSmall_of_eval hleft
  have hb : b.natAbs ≤ 2 ^ 53 := isSmall_of_eval hright
  have hnearest := isNearest_div_ofInt ha hb hne
  have hint : ∀ k, Number.ofBinary64 true (div (ofInt a) (ofInt b)) = .int k ↔ a = k * b :=
    fun k => Number.ofBinary64_div_ofInt ha hb hne
  refine ⟨_, eval_divide hleft hright, ?_, ?_, ?_⟩
  · simp only [hint, dvd_def, Int.mul_comm b]
  · intro k hk
    rw [(hint k).mp hk, Int.cast_mul, mul_div_cancel_right₀ _ (Int.cast_ne_zero.mpr hne)]
  · intro x hx
    obtain rfl := Number.ofBinary64_eq_float hx
    refine ⟨fun k hk => ?_, hnearest⟩
    have hread := toInt?_of_toRat_eq hnearest.isFinite hk
    have hmul := eq_mul_of_toInt?_div ha hb hne hread
    rw [(hint k).mpr hmul] at hx
    cases hx

/-- The tree of a literal evaluates to the number that it denotes. -/
theorem eval_numeral (n : Literal) : (number n.numeral).eval = .ok (.number n.value) := rfl

/-- The literal of the largest odd integer below the limit. -/
def oddLiteral : Literal := ⟨"9007199254740991", by decide⟩

def twoLiteral : Literal := ⟨"2", by decide⟩

theorem eval_oddLiteral :
    (number oddLiteral.numeral).eval = .ok (.number (.int 9007199254740991)) := by
  have hvalue : oddLiteral.value = .int 9007199254740991 := by decide +kernel
  rw [eval_numeral, hvalue]

theorem eval_twoLiteral : (number twoLiteral.numeral).eval = .ok (.number (.int 2)) := by
  have hvalue : twoLiteral.value = .int 2 := by decide +kernel
  rw [eval_numeral, hvalue]

/-- Half of the largest odd integer below the limit lies between two integers that
are its neighbours in binary64, and it is not rounded onto one of them. -/
theorem eval_halfOfOdd :
    ∃ x, (binary "/" (number oddLiteral.numeral) (number twoLiteral.numeral)).eval =
        .ok (.number (.float x)) ∧
      (∀ k : Int, x.toRat ≠ k) ∧ x.IsNearest (9007199254740991 / 2) := by
  obtain ⟨result, heval, hint, -, hfloat⟩ :=
    eval_quotient_of_integers eval_oddLiteral eval_twoLiteral (by decide)
  cases result with
  | int k => exact absurd (hint.mp ⟨k, rfl⟩) (by decide)
  | float x =>
    obtain ⟨hwhole, hnearest⟩ := hfloat x rfl
    rw [Int.cast_ofNat, Int.cast_ofNat] at hnearest
    exact ⟨x, heval, hwhole, hnearest⟩

end Node

end LineArithmetic
