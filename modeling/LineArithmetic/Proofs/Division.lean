import LineArithmetic.Proofs.Binary64.Standard
import LineArithmetic.Proofs.CheckedEvaluation
import LineArithmetic.Proofs.PlainEvaluation

/-!
# Division

The division of the standard as a relation: `IsQuotient x y z` has one constructor for
every kind of operands, and says of finite ones only that the quotient is rounded by the
standard and has the product of the signs.  It mentions no way to compute a quotient.

* `isQuotient_iff`: every two numbers have one quotient, and `div` computes it.
* `divide_isQuotient`: the division of lines computes it too.  It takes no quotient by a
  zero, fails for no operands, and gives the quotient for the operands of any tree.
-/

namespace LineArithmetic

namespace Binary64

/-! ## The quotients of the standard -/

/-- What the standard divides two numbers to. -/
inductive IsQuotient : Binary64 → Binary64 → Binary64 → Prop where
  | nanLeft {y : Binary64} : IsQuotient .nan y .nan
  | nanRight {x : Binary64} : IsQuotient x .nan .nan
  | zeros {s t : Bool} : IsQuotient (zero s) (zero t) .nan
  | infinities {s t : Bool} : IsQuotient (.infinite s) (.infinite t) .nan
  /-- A number other than zero, finite or not, by a zero. -/
  | byZero {x : Binary64} {t : Bool} (hnumber : x ≠ .nan) (hne : x.isZero = false) :
      IsQuotient x (zero t) (.infinite (x.isNegative != t))
  /-- A zero by any other number, finite or not. -/
  | ofZero {y : Binary64} {s : Bool} (hnumber : y ≠ .nan) (hne : y.isZero = false) :
      IsQuotient (zero s) y (zero (s != y.isNegative))
  | byInfinity {x : Binary64} {t : Bool} (hfinite : x.isFinite = true) :
      IsQuotient x (.infinite t) (zero (x.isNegative != t))
  | ofInfinity {y : Binary64} {s : Bool} (hfinite : y.isFinite = true)
      (hne : y.isZero = false) : IsQuotient (.infinite s) y (.infinite (s != y.isNegative))
  /-- The rational quotient, rounded; if it is rounded to zero, the sign is still that of
  the quotient. -/
  | rounded {x y z : Binary64} (hx : x.isFinite = true) (hxne : x.isZero = false)
      (hy : y.isFinite = true) (hyne : y.isZero = false)
      (hround : z.IsRounding (x.toRat / y.toRat))
      (hsign : z.isNegative = (x.isNegative != y.isNegative)) : IsQuotient x y z

/-! ## Division of the classes of numbers -/

section Classes

variable {x y : Binary64} {s t : Bool} {m n : Fin rankLimit}

theorem div_by_zero (hnumber : x ≠ .nan) (hne : x.isZero = false) :
    div x (zero t) = .infinite (x.isNegative != t) := by
  rw [div, isZero_zero, if_pos rfl, hne]
  cases x with
  | nan => exact absurd rfl hnumber
  | infinite s => rfl
  | finite s m => rfl

theorem div_of_zero (hnumber : y ≠ .nan) (hne : y.isZero = false) :
    div (zero s) y = zero (s != y.isNegative) := by
  cases y with
  | nan => exact absurd rfl hnumber
  | infinite t => rfl
  | finite t n => exact zero_div_finite s t (beq_eq_false_iff_ne.mp hne)

theorem div_by_infinity (hfinite : x.isFinite = true) :
    div x (.infinite t) = zero (x.isNegative != t) := by
  cases x with
  | nan | infinite => cases hfinite
  | finite s m => rfl

theorem div_of_infinity (hfinite : y.isFinite = true) (hne : y.isZero = false) :
    div (.infinite s) y = .infinite (s != y.isNegative) := by
  rw [div, hne, if_neg Bool.false_ne_true]
  cases y with
  | nan | infinite => cases hfinite
  | finite t n => rfl

theorem div_finite (hn : n.val ≠ 0) : div (finite s m) (finite t n) =
    ofUnits (s != t) (unitsOfRank m * unitsPerOne) (unitsOfRank n) := by
  rw [div_eq_ieeeDiv, ieeeDiv, if_pos hn, ofQuotient]

/-- The rational quotient of finite numbers, with its sign taken in front. -/
theorem toRat_div_toRat (s t : Bool) (m n : Fin rankLimit) :
    (finite s m).toRat / (finite t n).toRat =
      signed (s != t) (unitsOfRank m * unitsPerOne) / (unitsOfRank n * unitsPerOne : Nat) := by
  have hunit : (unitsPerOne : ℚ) ≠ 0 := Nat.cast_ne_zero.mpr unitsPerOne_pos.ne'
  rw [toRat, toRat, signedUnits_finite, signedUnits_finite, div_div_div_cancel_right₀ hunit]
  generalize unitsPerOne = unit at hunit ⊢
  cases s <;> cases t <;> simp [signed, mul_div_mul_right, hunit, neg_div, div_neg]

/-- The quotient of finite numbers is the rational one rounded by the standard. -/
theorem isRounding_div (hx : x.isFinite = true) (hy : y.isFinite = true)
    (hne : y.isZero = false) : (div x y).IsRounding (x.toRat / y.toRat) := by
  cases x with
  | nan | infinite => cases hx
  | finite s m =>
    cases y with
    | nan | infinite => cases hy
    | finite t n =>
      have hn : n.val ≠ 0 := beq_eq_false_iff_ne.mp hne
      have hpos : 0 < unitsOfRank n :=
        Nat.pos_of_ne_zero fun hzero => hn ((unitsOfRank_eq_zero_iff _).mp hzero)
      rw [div_finite hn, toRat_div_toRat]
      exact isRounding_ofUnits (s != t) (unitsOfRank m * unitsPerOne) hpos

theorem isNegative_div (hx : x.isFinite = true) (hy : y.isFinite = true)
    (hne : y.isZero = false) : (div x y).isNegative = (x.isNegative != y.isNegative) := by
  cases x with
  | nan | infinite => cases hx
  | finite s m =>
    cases y with
    | nan | infinite => cases hy
    | finite t n =>
      rw [div_finite (beq_eq_false_iff_ne.mp hne), isNegative_ofUnits]
      rfl

end Classes

/-! ## Every two numbers have one quotient -/

section Quotients

variable {x y z : Binary64}

theorem exists_isQuotient (x y : Binary64) : ∃ z, x.IsQuotient y z := by
  rcases eq_or_ne x .nan with rfl | hxnumber
  · exact ⟨.nan, .nanLeft⟩
  rcases eq_or_ne y .nan with rfl | hynumber
  · exact ⟨.nan, .nanRight⟩
  cases hx : x.isZero with
  | true =>
    obtain ⟨s, rfl⟩ := isZero_iff.mp hx
    cases hy : y.isZero with
    | true =>
      obtain ⟨t, rfl⟩ := isZero_iff.mp hy
      exact ⟨_, .zeros⟩
    | false => exact ⟨_, .ofZero hynumber hy⟩
  | false =>
    cases hy : y.isZero with
    | true =>
      obtain ⟨t, rfl⟩ := isZero_iff.mp hy
      exact ⟨_, .byZero hxnumber hx⟩
    | false =>
      cases x with
      | nan => exact absurd rfl hxnumber
      | infinite s =>
        cases y with
        | nan => exact absurd rfl hynumber
        | infinite t => exact ⟨_, .infinities⟩
        | finite t n => exact ⟨_, .ofInfinity rfl hy⟩
      | finite s m =>
        cases y with
        | nan => exact absurd rfl hynumber
        | infinite t => exact ⟨_, .byInfinity rfl⟩
        | finite t n =>
          exact ⟨_, .rounded rfl hx rfl hy (isRounding_div rfl rfl hy) (isNegative_div rfl rfl hy)⟩

/-- The standard leaves no other quotient than the one that division gives. -/
theorem IsQuotient.eq_div (h : x.IsQuotient y z) : z = div x y := by
  cases h with
  | nanLeft =>
    rw [div_eq_ieeeDiv]
    rfl
  | nanRight =>
    rw [div_eq_ieeeDiv]
    cases x <;> rfl
  | zeros => exact (zero_div_zero _ _).symm
  | infinities => rfl
  | byZero hnumber hne => exact (div_by_zero hnumber hne).symm
  | ofZero hnumber hne => exact (div_of_zero hnumber hne).symm
  | byInfinity hfinite => exact (div_by_infinity hfinite).symm
  | ofInfinity hfinite hne => exact (div_of_infinity hfinite hne).symm
  | rounded hx _ hy hyne hround hsign =>
    refine hround.eq_of_isNegative (isRounding_div hx hy hyne) ?_
    rw [hsign, isNegative_div hx hy hyne]

theorem isQuotient_iff : x.IsQuotient y z ↔ z = div x y := by
  constructor
  · exact IsQuotient.eq_div
  · rintro rfl
    obtain ⟨w, hw⟩ := exists_isQuotient x y
    rwa [hw.eq_div] at hw

end Quotients

end Binary64

open Binary64

/-- Division gives the quotient of the standard for every two numbers, and takes no
quotient by a zero on the way.  A tree that divides what its operands evaluate to gives this
quotient; an integer is only made of it where both operands are integers. -/
theorem divide_isQuotient (x y : Binary64) :
    ∃ z : Binary64, (∀ w, x.IsQuotient y w ↔ w = z) ∧ checkedDiv x y = .ok z ∧
      (∃ f, operation? "/" = some f ∧ f x y = z) ∧
      ∀ (left right : Node) (l r : Value), left.eval = .ok l → right.eval = .ok r →
        l.toBinary64 = .ok x → r.toBinary64 = .ok y →
        ∃ v : Number, (Node.binary "/" left right).eval = .ok (.number v) ∧ v.Denotes z ∧
          ((l.isInt && r.isInt) = false → v = .float z) := by
  refine ⟨div x y, fun w => isQuotient_iff, checkedDiv_eq x y, ⟨div, rfl, rfl⟩, ?_⟩
  intro left right l r hleft hright hx hy
  refine ⟨.ofBinary64 (l.isInt && r.isInt) (div x y), ?_, Number.denotes_ofBinary64 _ _, ?_⟩
  · refine Node.eval_binary_eq_ok_iff.mpr ⟨l, r, hleft, hright, ?_⟩
    exact Value.combine_eq_ok_iff.mpr ⟨div, x, y, rfl, hx, hy, rfl⟩
  · intro hfloat
    rw [hfloat, Number.ofBinary64_false]

/-- The literal of a zero that is not held as an integer. -/
def pointZeroLiteral : Literal := ⟨"0.0", by decide⟩

/-- The tree of a zero divided by a negative number. -/
def negativeZeroTree : Node :=
  .binary "/" (.number pointZeroLiteral.numeral)
    (.binary "-" (.number zeroLiteral.numeral) (.number limitLiteral.numeral))

/-- A positive number divided by the negative zero is the negative infinity. -/
theorem eval_divideByNegativeZero :
    negativeZeroTree.eval = .ok (.number (.float (zero true))) ∧
      (Node.binary "/" (.number limitLiteral.numeral) negativeZeroTree).eval =
        .ok (.number (.float (.infinite true))) := by
  have hleft : (Node.number limitLiteral.numeral).eval = .ok (.number (.int (2 ^ 53))) := by
    decide +kernel
  have hright : negativeZeroTree.eval = .ok (.number (.float (zero true))) := by decide +kernel
  obtain ⟨z, hz, -, -, htree⟩ := divide_isQuotient (ofInt (2 ^ 53)) (zero true)
  obtain ⟨v, heval, -, hfloat⟩ := htree _ _ _ _ hleft hright rfl rfl
  have hnegative : (ofInt (2 ^ 53)).isNegative = false := by decide +kernel
  have hquotient : (ofInt (2 ^ 53)).IsQuotient (zero true) (.infinite true) := by
    have hbyZero := IsQuotient.byZero (x := ofInt (2 ^ 53)) (t := true) (by decide +kernel)
      (by decide +kernel)
    rwa [hnegative] at hbyZero
  rw [heval, hfloat rfl, (hz _).mp hquotient]
  exact ⟨hright, rfl⟩

end LineArithmetic
