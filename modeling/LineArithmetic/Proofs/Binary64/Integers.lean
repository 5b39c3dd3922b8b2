import LineArithmetic.Number
import LineArithmetic.Proofs.Binary64.Nearest
import Mathlib.Data.Nat.Prime.Basic
import Mathlib.Tactic.Linarith

/-!
# Integers in binary64

Every integer of magnitude at most `2 ^ 53` is held exactly, and only one
integer beyond is mistaken for one of them: `2 ^ 53 + 1`, which lies halfway
between `2 ^ 53` and `2 ^ 53 + 2`.

* `IsRounded x z`: `x` is the integer `z` rounded once.  Sums, differences and
  products of small integers are of this form (`isRounded_add` and so on).
* `IsRounded.toInt?_eq` and `IsRounded.eq_or_halfway` are the two directions.
* `eq_mul_of_toInt?_div`: a quotient of small integers that is rounded to a
  small integer is exact.  The distance of a quotient from an integer is at
  least one part of the divisor, which is more than half a step.
-/

namespace LineArithmetic.Binary64

/-! ## Rounding onto integers -/

/-- The unit is a power of two.  Its exponent is kept abstract, since no proof
needs more of it than that it is large. -/
theorem exists_unitsPerOne_eq : ∃ e, 53 ≤ e ∧ e ≤ 1074 ∧ unitsPerOne = 2 ^ e := by
  refine ⟨1074, by decide, by decide, ?_⟩
  unfold unitsPerOne
  generalize 1074 = e
  exact Nat.pow_eq

theorem unitsPerOne_pos : 0 < unitsPerOne := by
  obtain ⟨e, -, -, he⟩ := exists_unitsPerOne_eq
  rw [he]
  exact Nat.two_pow_pos e

/-- A multiple of the unit up to `2 ^ 53` has a step of at most two units. -/
theorem gridStep_integer_le {n den e : Nat} (hden : 0 < den) (hn : n ≤ 2 ^ 53)
    (he : unitsPerOne = 2 ^ e) :
    gridStep (n * unitsPerOne * den) den ≤ e ∨
      gridStep (n * unitsPerOne * den) den = e + 1 ∧ n = 2 ^ 53 := by
  rcases gridStep_le (n * unitsPerOne * den) hden with hzero | hle
  · exact Or.inl (by omega)
  · generalize gridStep (n * unitsPerOne * den) den = step at hle ⊢
    have hunits : 2 ^ (52 + step) ≤ n * 2 ^ e := by
      refine Nat.le_of_mul_le_mul_right ?_ hden
      rw [he] at hle
      calc 2 ^ (52 + step) * den = 2 ^ 52 * (den * 2 ^ step) := by ring
        _ ≤ n * 2 ^ e * den := hle
    have htop : 2 ^ (52 + step) ≤ 2 ^ (53 + e) := by
      calc 2 ^ (52 + step) ≤ n * 2 ^ e := hunits
        _ ≤ 2 ^ 53 * 2 ^ e := Nat.mul_le_mul_right _ hn
        _ = 2 ^ (53 + e) := (pow_add 2 53 e).symm
    have hstep : 52 + step ≤ 53 + e := (Nat.pow_le_pow_iff_right (by decide)).mp htop
    by_cases hlast : step = e + 1
    · right
      refine ⟨hlast, Nat.le_antisymm hn ?_⟩
      refine Nat.le_of_mul_le_mul_right ?_ (Nat.two_pow_pos e)
      calc 2 ^ 53 * 2 ^ e = 2 ^ (52 + step) := by rw [hlast]; ring
        _ ≤ n * 2 ^ e := hunits
    · exact Or.inl (by omega)

/-- An integer up to `2 ^ 53` is a multiple of its step. -/
theorem two_pow_gridStep_dvd {n den : Nat} (hden : 0 < den) (hn : n ≤ 2 ^ 53) :
    2 ^ gridStep (n * unitsPerOne * den) den ∣ n * unitsPerOne := by
  obtain ⟨e, -, -, he⟩ := exists_unitsPerOne_eq
  rcases gridStep_integer_le hden hn he with hle | ⟨hlast, rfl⟩
  · rw [he] at hle ⊢
    exact Nat.dvd_mul_left_of_dvd (Nat.pow_dvd_pow 2 hle) n
  · rw [hlast, he, ← pow_add]
    exact Nat.pow_dvd_pow 2 (by omega)

/-- An integer up to `2 ^ 53` is not changed by rounding. -/
theorem unitsOfRank_nearestRank_integer {n den : Nat} (hden : 0 < den) (hn : n ≤ 2 ^ 53) :
    unitsOfRank (nearestRank (n * unitsPerOne * den) den) = n * unitsPerOne :=
  unitsOfRank_nearestRank_of_dvd hden rfl (two_pow_gridStep_dvd hden hn)

/-- A step of a larger integer is at most a part in `2 ^ 52` of it. -/
theorem gridStep_le_integer {m den : Nat} (hden : 0 < den) (hm : 2 ^ 52 ≤ m) :
    2 ^ 52 * (den * 2 ^ gridStep (m * unitsPerOne * den) den) ≤ m * unitsPerOne * den := by
  rcases gridStep_le (m * unitsPerOne * den) hden with hzero | hle
  · have hone : 2 ^ 52 * den ≤ m * den := Nat.mul_le_mul_right den hm
    rw [hzero]
    calc 2 ^ 52 * (den * 2 ^ 0) = 2 ^ 52 * den := by ring
      _ ≤ m * den * unitsPerOne := hone.trans (Nat.le_mul_of_pos_right _ unitsPerOne_pos)
      _ = m * unitsPerOne * den := by ring
  · exact hle

/-- An integer that is rounded onto one up to `2 ^ 53` is that one, or lies
halfway behind `2 ^ 53`. -/
theorem eq_or_halfway_of_nearestRank {m n den : Nat} (hden : 0 < den) (hn : n ≤ 2 ^ 53)
    (h : unitsOfRank (nearestRank (m * unitsPerOne * den) den) = n * unitsPerOne) :
    n = m ∨ m = 2 ^ 53 + 1 ∧ n = 2 ^ 53 := by
  by_cases hm : m ≤ 2 ^ 53
  · rw [unitsOfRank_nearestRank_integer hden hm] at h
    exact Or.inl (Nat.eq_of_mul_eq_mul_right unitsPerOne_pos h).symm
  · right
    have hnear := (unitsOfRank_nearestRank_bounds (m * unitsPerOne * den) hden).1
    have hlow := gridStep_le_integer hden (show 2 ^ 52 ≤ m by omega)
    rw [h] at hnear
    generalize gridStep (m * unitsPerOne * den) den = step at hnear hlow
    -- half a step is at most a part in `2 ^ 53`, so `m` is hardly larger than `n`
    have hscaled : 2 ^ 53 * m ≤ 2 ^ 53 * n + m := by
      refine Nat.le_of_mul_le_mul_right ?_ (Nat.mul_pos unitsPerOne_pos hden)
      calc 2 ^ 53 * m * (unitsPerOne * den) = 2 ^ 52 * (2 * (m * unitsPerOne * den)) := by ring
        _ ≤ 2 ^ 52 * (2 * (n * unitsPerOne * den) + den * 2 ^ step) :=
            Nat.mul_le_mul_left _ hnear
        _ = 2 ^ 53 * (n * unitsPerOne * den) + 2 ^ 52 * (den * 2 ^ step) := by ring
        _ ≤ 2 ^ 53 * (n * unitsPerOne * den) + m * unitsPerOne * den :=
            Nat.add_le_add_left hlow _
        _ = (2 ^ 53 * n + m) * (unitsPerOne * den) := by ring
    omega

/-- The rank of an integer up to `2 ^ 53` is one of a finite magnitude. -/
theorem nearestRank_integer_lt {n den : Nat} (hden : 0 < den) (hn : n ≤ 2 ^ 53) :
    nearestRank (n * unitsPerOne * den) den < rankLimit := by
  obtain ⟨e, -, he, hunit⟩ := exists_unitsPerOne_eq
  have hstep := gridStep_integer_le hden hn hunit
  have hround := (divNearestEven_gridStep (n * unitsPerOne * den) hden).1
  rw [nearestRank_eq, rankLimit, Nat.pow_eq]
  omega

/-- A quotient that is rounded onto an integer without being it is at least one
part of the divisor away from it, and at most half a step. -/
theorem le_gridStep_of_ne {a b n : Nat} (hpos : 0 < b) (hne : a ≠ n * b)
    (h : unitsOfRank (nearestRank (a * unitsPerOne * unitsPerOne) (b * unitsPerOne)) =
      n * unitsPerOne) :
    2 * unitsPerOne ≤
      b * 2 ^ gridStep (a * unitsPerOne * unitsPerOne) (b * unitsPerOne) := by
  have hunit := unitsPerOne_pos
  obtain ⟨hlow, hhigh⟩ := unitsOfRank_nearestRank_bounds (a * unitsPerOne * unitsPerOne)
    (Nat.mul_pos hpos hunit)
  rw [h] at hlow hhigh
  generalize gridStep (a * unitsPerOne * unitsPerOne) (b * unitsPerOne) = step at hlow hhigh ⊢
  refine Nat.le_of_mul_le_mul_right ?_ hunit
  rcases Nat.lt_or_gt_of_ne hne with hlt | hgt
  · have hmul : (a + 1) * (unitsPerOne * unitsPerOne) ≤ n * b * (unitsPerOne * unitsPerOne) :=
      Nat.mul_le_mul_right _ hlt
    linarith
  · have hmul : (n * b + 1) * (unitsPerOne * unitsPerOne) ≤ a * (unitsPerOne * unitsPerOne) :=
      Nat.mul_le_mul_right _ hgt
    linarith

/-- Only the quotient of `2 ^ 53` and a power of two has steps as large as that. -/
theorem dvd_of_le_gridStep {a b : Nat} (ha : a ≤ 2 ^ 53) (hb : b ≤ 2 ^ 53) (hpos : 0 < b)
    (h : 2 * unitsPerOne ≤
      b * 2 ^ gridStep (a * unitsPerOne * unitsPerOne) (b * unitsPerOne)) : b ∣ a := by
  have hunit := unitsPerOne_pos
  obtain ⟨e, hlarge, -, he⟩ := exists_unitsPerOne_eq
  have hgrid := gridStep_le (a * unitsPerOne * unitsPerOne) (Nat.mul_pos hpos hunit)
  generalize gridStep (a * unitsPerOne * unitsPerOne) (b * unitsPerOne) = step at h hgrid
  rcases hgrid with rfl | hle
  · exfalso
    have hsmall : 2 ^ 53 ≤ unitsPerOne := by
      rw [he]
      exact Nat.pow_le_pow_right (by decide) hlarge
    rw [pow_zero, Nat.mul_one] at h
    omega
  · have hsteps : 2 ^ 52 * (b * 2 ^ step) ≤ a * unitsPerOne := by
      refine Nat.le_of_mul_le_mul_right ?_ hunit
      linarith
    have htop : a * unitsPerOne ≤ 2 ^ 53 * unitsPerOne := Nat.mul_le_mul_right _ ha
    have hmax : a = 2 ^ 53 := by
      refine Nat.eq_of_mul_eq_mul_right hunit ?_
      omega
    have hpower : b * 2 ^ step = 2 ^ (e + 1) := by
      rw [pow_succ, ← he]
      omega
    obtain ⟨j, -, rfl⟩ := (Nat.dvd_prime_pow Nat.prime_two).mp (Dvd.intro _ hpower)
    have hj : j ≤ 53 := (Nat.pow_le_pow_iff_right (by decide)).mp hb
    rw [hmax]
    exact Nat.pow_dvd_pow 2 hj

/-- A quotient of integers up to `2 ^ 53` that is rounded onto an integer is
that integer. -/
theorem eq_mul_of_nearestRank {a b n : Nat} (ha : a ≤ 2 ^ 53) (hb : b ≤ 2 ^ 53)
    (hpos : 0 < b)
    (h : unitsOfRank (nearestRank (a * unitsPerOne * unitsPerOne) (b * unitsPerOne)) =
      n * unitsPerOne) : a = n * b := by
  by_cases hdvd : b ∣ a
  · obtain ⟨c, rfl⟩ := hdvd
    have hc : c ≤ 2 ^ 53 := (Nat.le_mul_of_pos_left c hpos).trans ha
    have hnum : b * c * unitsPerOne * unitsPerOne = c * unitsPerOne * (b * unitsPerOne) := by
      ring
    rw [hnum, unitsOfRank_nearestRank_integer (Nat.mul_pos hpos unitsPerOne_pos) hc] at h
    rw [Nat.eq_of_mul_eq_mul_right unitsPerOne_pos h, Nat.mul_comm]
  · exfalso
    have hne : a ≠ n * b := fun hab => hdvd (hab ▸ Nat.dvd_mul_left b n)
    exact hdvd (dvd_of_le_gridStep ha hb hpos (le_gridStep_of_ne hpos hne h))

/-! ## Signs and magnitudes -/

/-- The integer of a sign and a magnitude. -/
def signed (negative : Bool) (n : Nat) : Int :=
  if negative then -n else n

theorem signed_false (n : Nat) : signed false n = n := rfl

@[simp] theorem natAbs_signed (negative : Bool) (n : Nat) :
    (signed negative n).natAbs = n := by
  unfold signed
  split <;> omega

/-- An integer is made of its sign and its magnitude. -/
theorem signed_natAbs (z : Int) : signed (decide (z < 0)) z.natAbs = z := by
  unfold signed
  split <;> rename_i h <;> rw [decide_eq_true_eq] at h <;> omega

/-- The sign of a product. -/
theorem signed_mul (s t : Bool) (m n : Nat) :
    signed (s != t) (m * n) = signed s m * signed t n := by
  cases s <;> cases t <;> simp [signed]

/-- The sign of a quotient, which is multiplied with the divisor again. -/
theorem signed_quotient_mul (l r : Int) (n : Nat) :
    signed (decide (l < 0) != decide (r < 0)) n * r = signed (decide (l < 0)) (n * r.natAbs) := by
  have h := signed_mul (decide (l < 0) != decide (r < 0)) (decide (r < 0)) n r.natAbs
  rw [Bool.bne_assoc, bne_self_eq_false, Bool.bne_false, signed_natAbs] at h
  exact h.symm

/-- A finite number whose magnitude is an integer is that integer. -/
theorem toInt?_finite {negative : Bool} {rank : Fin rankLimit} {n : Nat}
    (h : unitsOfRank rank = n * unitsPerOne) :
    (finite negative rank).toInt? = some (signed negative n) := by
  simp only [toInt?]
  rw [h, Nat.mul_mod_left, Nat.mul_div_cancel n unitsPerOne_pos]
  rfl

/-- A number that is an integer is finite and has its sign and magnitude. -/
theorem finite_of_toInt?_eq {x : Binary64} {z : Int} (h : x.toInt? = some z) :
    ∃ negative rank, x = finite negative rank ∧
      unitsOfRank rank = z.natAbs * unitsPerOne ∧ signed negative z.natAbs = z := by
  cases x with
  | nan => simp [toInt?] at h
  | infinite negative => simp [toInt?] at h
  | finite negative rank =>
    refine ⟨negative, rank, rfl, ?_⟩
    simp only [toInt?] at h
    split at h
    · rename_i hmod
      have hz : signed negative (unitsOfRank rank / unitsPerOne) = z := Option.some.inj h
      have hdiv := Nat.div_add_mod' (unitsOfRank rank) unitsPerOne
      rw [← hz, natAbs_signed]
      exact ⟨by omega, rfl⟩
    · cases h

/-! ## Integers rounded once -/

/-- A number that is an integer rounded once, over any divisor. -/
def IsRounded (x : Binary64) (z : Int) : Prop :=
  ∃ negative den, 0 < den ∧ signed negative z.natAbs = z ∧
    x = ofUnits negative (z.natAbs * unitsPerOne * den) den

/-- An integer up to `2 ^ 53` survives rounding. -/
theorem IsRounded.eq_finite {x : Binary64} {z : Int} (h : IsRounded x z)
    (hz : z.natAbs ≤ 2 ^ 53) :
    ∃ negative rank, x = finite negative rank ∧
      unitsOfRank rank = z.natAbs * unitsPerOne ∧ signed negative z.natAbs = z := by
  obtain ⟨negative, den, hden, hsign, rfl⟩ := h
  have hlt := nearestRank_integer_lt hden hz
  refine ⟨negative, ⟨_, hlt⟩, dif_pos hlt, ?_, hsign⟩
  exact unitsOfRank_nearestRank_integer hden hz

theorem IsRounded.toInt?_eq {x : Binary64} {z : Int} (h : IsRounded x z)
    (hz : z.natAbs ≤ 2 ^ 53) : x.toInt? = some z := by
  obtain ⟨negative, rank, rfl, hunits, hsign⟩ := h.eq_finite hz
  rw [toInt?_finite hunits, hsign]

/-- An integer that is rounded to one up to `2 ^ 53` is that one, or lies
halfway behind the last of them. -/
theorem IsRounded.eq_or_halfway {x : Binary64} {z k : Int} (h : IsRounded x z)
    (hx : x.toInt? = some k) (hk : k.natAbs ≤ 2 ^ 53) :
    k = z ∨ z = 2 ^ 53 + 1 ∧ k = 2 ^ 53 ∨ z = -(2 ^ 53 + 1) ∧ k = -2 ^ 53 := by
  obtain ⟨negative, den, hden, hz, rfl⟩ := h
  obtain ⟨sign, rank, hfinite, hunits, hsign⟩ := finite_of_toInt?_eq hx
  unfold ofUnits at hfinite
  split at hfinite
  · obtain ⟨rfl, rfl⟩ := Binary64.finite.inj hfinite
    rcases eq_or_halfway_of_nearestRank hden hk hunits with heq | ⟨hzabs, hkabs⟩
    · left
      rw [← hsign, heq, hz]
    · right
      rw [hzabs] at hz
      rw [hkabs] at hsign
      rw [← hz, ← hsign]
      cases negative with
      | false => exact Or.inl ⟨rfl, rfl⟩
      | true => exact Or.inr ⟨rfl, rfl⟩
  · cases hfinite

/-! ## Operations on integers -/

section Operations

variable {l r : Int}

/-- A small integer as a finite number. -/
theorem ofInt_eq_finite (hl : l.natAbs ≤ 2 ^ 53) :
    ∃ rank : Fin rankLimit, ofInt l = finite (decide (l < 0)) rank ∧
      unitsOfRank rank = l.natAbs * unitsPerOne := by
  have hlt : nearestRank (l.natAbs * unitsPerOne) 1 < rankLimit := by
    have h := nearestRank_integer_lt Nat.one_pos hl
    rwa [Nat.mul_one] at h
  refine ⟨⟨_, hlt⟩, dif_pos hlt, ?_⟩
  have h := unitsOfRank_nearestRank_integer Nat.one_pos hl
  rwa [Nat.mul_one] at h

theorem isFinite_ofInt (hl : l.natAbs ≤ 2 ^ 53) : (ofInt l).isFinite = true := by
  obtain ⟨rank, hfinite, -⟩ := ofInt_eq_finite hl
  rw [hfinite]
  rfl

theorem isZero_ofInt (hl : l.natAbs ≤ 2 ^ 53) (hne : l ≠ 0) : (ofInt l).isZero = false := by
  obtain ⟨rank, hfinite, hunits⟩ := ofInt_eq_finite hl
  have hrank : rank.val ≠ 0 := by
    intro hzero
    have hvanish := (unitsOfRank_eq_zero_iff rank).mpr hzero
    rw [hunits, Nat.mul_eq_zero] at hvanish
    have := unitsPerOne_pos
    omega
  rw [hfinite]
  exact beq_false_of_ne hrank

theorem signedUnits_finite (negative : Bool) (rank : Fin rankLimit) :
    (finite negative rank).signedUnits = signed negative (unitsOfRank rank) := by
  cases negative <;> simp [signedUnits, signed]

theorem signedUnits_ofInt (hl : l.natAbs ≤ 2 ^ 53) :
    (ofInt l).signedUnits = l * unitsPerOne := by
  obtain ⟨rank, hfinite, hunits⟩ := ofInt_eq_finite hl
  have hmul := signed_mul (decide (l < 0)) false l.natAbs unitsPerOne
  rw [signed_natAbs, signed_false, Bool.bne_false] at hmul
  rw [hfinite, signedUnits_finite, hunits, hmul]

theorem signedUnits_neg (x : Binary64) : (neg x).signedUnits = -x.signedUnits := by
  cases x with
  | nan => rfl
  | infinite negative => rfl
  | finite negative rank => cases negative <;> simp [neg, signedUnits]

/-- Rounding nothing gives a zero of the given sign. -/
theorem ofUnits_zero (negative : Bool) {den : Nat} (hden : 0 < den) :
    ofUnits negative 0 den = zero negative := by
  have hstep : gridStep 0 den = 0 := by simp [gridStep]
  have hround : divNearestEven 0 (den * 2 ^ 0) ≤ 0 :=
    divNearestEven_le (by rwa [pow_zero, Nat.mul_one]) (Nat.zero_le _)
  have hrank : nearestRank 0 den = 0 := by
    rw [nearestRank_eq, hstep, Nat.le_zero.mp hround, Nat.zero_mul]
  simp only [ofUnits, zero, hrank]
  rfl

theorem isRounded_ofSignedUnits (zeroSign : Bool) (z : Int) :
    IsRounded (ofSignedUnits zeroSign (z * unitsPerOne)) z := by
  have hunit : (0 : Int) < unitsPerOne := Int.natCast_pos.mpr unitsPerOne_pos
  unfold ofSignedUnits
  split
  · rename_i hzero
    obtain rfl : z = 0 := (Int.mul_eq_zero.mp hzero).resolve_right (by omega)
    refine ⟨zeroSign, 1, Nat.one_pos, by cases zeroSign <;> rfl, ?_⟩
    rw [Int.natAbs_zero, Nat.zero_mul, Nat.zero_mul, ofUnits_zero _ Nat.one_pos]
  · have hneg : z * (unitsPerOne : Int) < 0 ↔ z < 0 := by
      constructor <;> intro h <;> nlinarith
    refine ⟨decide (z < 0), 1, Nat.one_pos, signed_natAbs z, ?_⟩
    rw [Int.natAbs_mul, Int.natAbs_natCast, Nat.mul_one, decide_eq_decide.mpr hneg]

/-- The sum of two finite numbers that are integers is rounded once. -/
theorem isRounded_add_finite {s t : Bool} {m n : Fin rankLimit}
    (hl : (finite s m).signedUnits = l * unitsPerOne)
    (hr : (finite t n).signedUnits = r * unitsPerOne) :
    IsRounded (add (finite s m) (finite t n)) (l + r) := by
  have hsum : add (finite s m) (finite t n) =
      ofSignedUnits (s && t) ((l + r) * unitsPerOne) := by
    rw [Int.add_mul, ← hl, ← hr]
    rfl
  rw [hsum]
  exact isRounded_ofSignedUnits _ _

theorem isRounded_add (hl : l.natAbs ≤ 2 ^ 53) (hr : r.natAbs ≤ 2 ^ 53) :
    IsRounded (add (ofInt l) (ofInt r)) (l + r) := by
  have hlunits := signedUnits_ofInt hl
  have hrunits := signedUnits_ofInt hr
  obtain ⟨m, hm, -⟩ := ofInt_eq_finite hl
  obtain ⟨n, hn, -⟩ := ofInt_eq_finite hr
  rw [hm] at hlunits ⊢
  rw [hn] at hrunits ⊢
  exact isRounded_add_finite hlunits hrunits

theorem isRounded_sub (hl : l.natAbs ≤ 2 ^ 53) (hr : r.natAbs ≤ 2 ^ 53) :
    IsRounded (sub (ofInt l) (ofInt r)) (l - r) := by
  have hlunits := signedUnits_ofInt hl
  have hrunits : (neg (ofInt r)).signedUnits = -r * unitsPerOne := by
    rw [signedUnits_neg, signedUnits_ofInt hr, Int.neg_mul]
  obtain ⟨m, hm, -⟩ := ofInt_eq_finite hl
  obtain ⟨n, hn, -⟩ := ofInt_eq_finite hr
  rw [sub, Int.sub_eq_add_neg]
  rw [hm] at hlunits ⊢
  rw [hn] at hrunits ⊢
  exact isRounded_add_finite hlunits hrunits

theorem isRounded_mul (hl : l.natAbs ≤ 2 ^ 53) (hr : r.natAbs ≤ 2 ^ 53) :
    IsRounded (mul (ofInt l) (ofInt r)) (l * r) := by
  obtain ⟨m, hm, hmu⟩ := ofInt_eq_finite hl
  obtain ⟨n, hn, hnu⟩ := ofInt_eq_finite hr
  refine ⟨decide (l < 0) != decide (r < 0), unitsPerOne, unitsPerOne_pos, ?_, ?_⟩
  · rw [Int.natAbs_mul, signed_mul, signed_natAbs, signed_natAbs]
  · have hproduct : (l * r).natAbs * unitsPerOne * unitsPerOne =
        unitsOfRank m * unitsOfRank n := by
      rw [Int.natAbs_mul, hmu, hnu]
      ring
    rw [hm, hn, hproduct]
    rfl

theorem ofInt_zero : ofInt 0 = zero false := by
  rw [ofInt, ofQuotient, Int.natAbs_zero, Nat.zero_mul, ofUnits_zero _ Nat.one_pos]
  rfl

/-- Dividing by zero gives no integer. -/
theorem toInt?_div_zero (x : Binary64) : (div x (ofInt 0)).toInt? = none := by
  rw [ofInt_zero, div, isZero_zero, if_pos rfl]
  split <;> rfl

/-- The quotient of small integers is their exact quotient rounded once. -/
theorem div_ofInt (hl : l.natAbs ≤ 2 ^ 53) (hr : r.natAbs ≤ 2 ^ 53) (hne : r ≠ 0) :
    div (ofInt l) (ofInt r) = ofUnits (decide (l < 0) != decide (r < 0))
      (l.natAbs * unitsPerOne * unitsPerOne) (r.natAbs * unitsPerOne) := by
  obtain ⟨m, hm, hmu⟩ := ofInt_eq_finite hl
  obtain ⟨n, hn, hnu⟩ := ofInt_eq_finite hr
  rw [div, isZero_ofInt hr hne, if_neg Bool.false_ne_true, hm, hn, ← hmu, ← hnu, quotient,
    ofQuotient]

/-- A quotient of small integers that is rounded to an integer is exact. -/
theorem eq_mul_of_toInt?_div {k : Int} (hl : l.natAbs ≤ 2 ^ 53) (hr : r.natAbs ≤ 2 ^ 53)
    (hne : r ≠ 0) (h : (div (ofInt l) (ofInt r)).toInt? = some k) : l = k * r := by
  obtain ⟨negative, rank, hfinite, hunits, hsign⟩ := finite_of_toInt?_eq h
  rw [div_ofInt hl hr hne, ofUnits] at hfinite
  split at hfinite
  · obtain ⟨rfl, rfl⟩ := Binary64.finite.inj hfinite
    have hmul : l.natAbs = k.natAbs * r.natAbs :=
      eq_mul_of_nearestRank hl hr (Int.natAbs_pos.mpr hne) hunits
    rw [← hsign, signed_quotient_mul, ← hmul, signed_natAbs]
  · cases hfinite

/-- An exact quotient of small integers is rounded once like any integer. -/
theorem isRounded_div {k : Int} (hl : l.natAbs ≤ 2 ^ 53) (hr : r.natAbs ≤ 2 ^ 53)
    (hne : r ≠ 0) (hk : l = k * r) : IsRounded (div (ofInt l) (ofInt r)) k := by
  refine ⟨decide (l < 0) != decide (r < 0), r.natAbs * unitsPerOne,
    Nat.mul_pos (Int.natAbs_pos.mpr hne) unitsPerOne_pos, ?_, ?_⟩
  · refine Int.eq_of_mul_eq_mul_right hne ?_
    rw [signed_quotient_mul, ← Int.natAbs_mul, ← hk, signed_natAbs]
  · have hnum : k.natAbs * unitsPerOne * (r.natAbs * unitsPerOne) =
        l.natAbs * unitsPerOne * unitsPerOne := by
      rw [hk, Int.natAbs_mul]
      ring
    rw [div_ofInt hl hr hne, hnum]

end Operations

end LineArithmetic.Binary64
