import LineArithmetic.Proofs.Binary64.Integers

/-!
# The same number

Two binary64 numbers are the same number if they agree up to the sign of a
zero.  Comparing them tells no more than that, but dividing by them does: a
quotient by a zero takes the sign of the zero.

* `SameNumber.add` and so on: in front of the same right operand the sign of a
  zero never matters.  This is why a result may be held as an integer, which
  drops the sign.
* `sameNumber_ofInt`: a small integer is held as the same number.
* `ieeeDiv` is the division of the IEEE 754 standard, told by the classes of
  both operands; `div_eq_ieeeDiv` says that it is the division of lines.
-/

namespace LineArithmetic.Binary64

/-- Whether two numbers agree up to the sign of a zero. -/
def SameNumber (x y : Binary64) : Prop :=
  x = y ∨ x.isZero = true ∧ y.isZero = true

theorem SameNumber.refl (x : Binary64) : SameNumber x x := Or.inl rfl

/-- The two zeros are the only numbers that are zero. -/
theorem isZero_iff {x : Binary64} : x.isZero = true ↔ ∃ s, x = zero s := by
  constructor
  · intro h
    cases x with
    | nan => cases h
    | infinite s => cases h
    | finite s rank =>
      have hrank : rank.val = 0 := eq_of_beq h
      exact ⟨s, congrArg (finite s) (Fin.ext hrank)⟩
  · rintro ⟨s, rfl⟩
    rfl

theorem sameNumber_zero (s t : Bool) : SameNumber (zero s) (zero t) :=
  Or.inr ⟨rfl, rfl⟩

/-- The same numbers are equal or the two zeros. -/
theorem SameNumber.eq_or_zeros {x y : Binary64} (h : SameNumber x y) :
    x = y ∨ ∃ s t, x = zero s ∧ y = zero t := by
  refine h.imp_right fun ⟨hx, hy⟩ => ?_
  obtain ⟨s, rfl⟩ := isZero_iff.mp hx
  obtain ⟨t, rfl⟩ := isZero_iff.mp hy
  exact ⟨s, t, rfl, rfl⟩

theorem SameNumber.trans {x y z : Binary64} (h : SameNumber x y) (h' : SameNumber y z) :
    SameNumber x z := by
  rcases h with rfl | ⟨hx, hy⟩
  · exact h'
  · rcases h' with rfl | ⟨-, hz⟩
    · exact Or.inr ⟨hx, hy⟩
    · exact Or.inr ⟨hx, hz⟩

/-- The same number with the same sign is one number of the format. -/
theorem SameNumber.eq_of_isNegative {x y : Binary64} (h : SameNumber x y)
    (hsign : x.isNegative = y.isNegative) : x = y := by
  rcases h.eq_or_zeros with rfl | ⟨s, t, rfl, rfl⟩
  · rfl
  · have hst : s = t := hsign
    rw [hst]

theorem unitsOfRank_zero : unitsOfRank 0 = 0 :=
  (unitsOfRank_eq_zero_iff 0).mpr rfl

theorem toInt?_zero (s : Bool) : (zero s).toInt? = some 0 := by
  have hunits : unitsOfRank 0 = 0 * unitsPerOne := by
    rw [Nat.zero_mul, unitsOfRank_zero]
  have hread : (zero s).toInt? = some (signed s 0) := toInt?_finite hunits
  rw [hread]
  cases s <;> rfl

theorem SameNumber.toInt?_eq {x y : Binary64} (h : SameNumber x y) : x.toInt? = y.toInt? := by
  rcases h.eq_or_zeros with rfl | ⟨s, t, rfl, rfl⟩
  · rfl
  · rw [toInt?_zero, toInt?_zero]

/-! ## Operations on zeros -/

section Zeros

variable (s t : Bool) {rank : Fin rankLimit}

theorem zero_add_finite : add (zero s) (finite t rank) =
    ofSignedUnits (s && t) (finite t rank).signedUnits := by
  have hunits : (zero s).signedUnits = 0 := by
    cases s <;> simp [zero, signedUnits, unitsOfRank_zero]
  show ofSignedUnits (s && t) ((zero s).signedUnits + (finite t rank).signedUnits) = _
  rw [hunits, Int.zero_add]

theorem zero_mul_finite : mul (zero s) (finite t rank) = zero (s != t) := by
  show ofUnits (s != t) (unitsOfRank 0 * unitsOfRank rank) unitsPerOne = zero (s != t)
  rw [unitsOfRank_zero, Nat.zero_mul, ofUnits_zero _ unitsPerOne_pos]

theorem zero_div_zero : div (zero s) (zero t) = nan := by
  rw [div, isZero_zero, if_pos rfl, isZero_zero, Bool.true_or, if_pos rfl]

theorem zero_div_finite (h : rank.val ≠ 0) : div (zero s) (finite t rank) = zero (s != t) := by
  have hdivisor : (finite t rank).isZero = false := beq_false_of_ne h
  have hpos : 0 < unitsOfRank rank :=
    Nat.pos_of_ne_zero fun hzero => h ((unitsOfRank_eq_zero_iff _).mp hzero)
  rw [div, hdivisor, if_neg Bool.false_ne_true, zero, quotient, ofQuotient, unitsOfRank_zero,
    Nat.zero_mul, ofUnits_zero _ hpos, zero]

end Zeros

/-! ## Operations on the same numbers -/

section Operations

variable {x y : Binary64}

/-- A sum takes the sign of its terms only if it is zero. -/
theorem sameNumber_ofSignedUnits (s t : Bool) (units : Int) :
    SameNumber (ofSignedUnits s units) (ofSignedUnits t units) := by
  unfold ofSignedUnits
  split
  · exact sameNumber_zero s t
  · exact SameNumber.refl _

theorem SameNumber.add (h : SameNumber x y) (z : Binary64) :
    SameNumber (add x z) (add y z) := by
  rcases h.eq_or_zeros with rfl | ⟨s, t, rfl, rfl⟩
  · exact SameNumber.refl _
  · cases z with
    | nan => exact SameNumber.refl _
    | infinite negative => exact SameNumber.refl _
    | finite negative rank =>
      rw [zero_add_finite, zero_add_finite]
      exact sameNumber_ofSignedUnits _ _ _

theorem SameNumber.sub (h : SameNumber x y) (z : Binary64) :
    SameNumber (sub x z) (sub y z) :=
  h.add (neg z)

theorem SameNumber.mul (h : SameNumber x y) (z : Binary64) :
    SameNumber (mul x z) (mul y z) := by
  rcases h.eq_or_zeros with rfl | ⟨s, t, rfl, rfl⟩
  · exact SameNumber.refl _
  · cases z with
    | nan => exact SameNumber.refl _
    | infinite negative => exact SameNumber.refl _
    | finite negative rank =>
      rw [zero_mul_finite, zero_mul_finite]
      exact sameNumber_zero _ _

theorem SameNumber.div (h : SameNumber x y) (z : Binary64) :
    SameNumber (div x z) (div y z) := by
  rcases h.eq_or_zeros with rfl | ⟨s, t, rfl, rfl⟩
  · exact SameNumber.refl _
  · cases z with
    | nan => exact SameNumber.refl _
    | infinite negative => exact sameNumber_zero _ _
    | finite negative rank =>
      by_cases hrank : rank.val = 0
      · have hzero : finite negative rank = zero negative :=
          congrArg (finite negative) (Fin.ext hrank)
        rw [hzero, zero_div_zero, zero_div_zero]
        exact SameNumber.refl _
      · rw [zero_div_finite s negative hrank, zero_div_finite t negative hrank]
        exact sameNumber_zero _ _

end Operations

/-! ## Integers -/

/-- A small integer is held as the same number. -/
theorem sameNumber_ofInt {x : Binary64} {k : Int} (h : x.toInt? = some k)
    (hk : k.natAbs ≤ 2 ^ 53) : SameNumber (ofInt k) x := by
  obtain ⟨negative, rank, rfl, hunits, hsign⟩ := finite_of_toInt?_eq h
  obtain ⟨held, hheld, hheldUnits⟩ := ofInt_eq_finite hk
  have hrank : held = rank := Fin.ext (unitsOfRank_injective (hheldUnits.trans hunits.symm))
  rw [hheld, hrank]
  by_cases hzero : k = 0
  · right
    have hrankZero : rank.val = 0 := by
      rw [hzero, Int.natAbs_zero, Nat.zero_mul] at hunits
      exact (unitsOfRank_eq_zero_iff _).mp hunits
    exact ⟨beq_iff_eq.mpr hrankZero, beq_iff_eq.mpr hrankZero⟩
  · left
    have hnegative : decide (k < 0) = negative := by
      cases negative with
      | false =>
        rw [signed_false] at hsign
        exact decide_eq_false (by omega)
      | true =>
        have hneg : -(k.natAbs : Int) = k := hsign
        exact decide_eq_true (by omega)
    rw [hnegative]

/-! ## Division by the standard -/

/-- The quotient of the IEEE 754 standard: no value if an operand is none, and
for two zeros and two infinities; else the sign is the product of the signs. -/
def ieeeDiv : Binary64 → Binary64 → Binary64
  | .nan, _ | _, .nan => .nan
  | .infinite _, .infinite _ => .nan
  | .infinite s, .finite t _ => .infinite (s != t)
  | .finite s _, .infinite t => zero (s != t)
  | .finite s m, .finite t n =>
    if n.val ≠ 0 then ofQuotient (s != t) (unitsOfRank m) (unitsOfRank n)
    else if m.val ≠ 0 then .infinite (s != t) else .nan

/-- Division is that of the standard. -/
theorem div_eq_ieeeDiv (x y : Binary64) : div x y = ieeeDiv x y := by
  cases y with
  | nan => cases x <;> rfl
  | infinite t => cases x <;> rfl
  | finite t n =>
    by_cases hn : n.val = 0
    · have hdivisor : (finite t n).isZero = true := beq_iff_eq.mpr hn
      rw [div, if_pos hdivisor]
      cases x with
      | nan => rfl
      | infinite s => rfl
      | finite s m =>
        by_cases hm : m.val = 0
        · have hdividend : (finite s m).isZero = true := beq_iff_eq.mpr hm
          simp [ieeeDiv, hdividend, hm, hn]
        · have hdividend : (finite s m).isZero = false := beq_false_of_ne hm
          simp [ieeeDiv, hdividend, hm, hn, isNaN, isNegative]
    · have hdivisor : (finite t n).isZero = false := beq_false_of_ne hn
      rw [div, hdivisor, if_neg Bool.false_ne_true]
      cases x with
      | nan => rfl
      | infinite s => rfl
      | finite s m => simp [ieeeDiv, quotient, hn]

end LineArithmetic.Binary64
