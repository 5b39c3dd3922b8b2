import LineArithmetic.Proofs.Binary64.Optimal
import Mathlib.Data.Int.ConditionallyCompleteOrder

/-!
# Rounding by the standard

`Optimal` says that a finite result of rounding is nearest.  This module says when a
result is finite, and puts both together in `IsRounding x q`: `x` is what the standard
rounds the rational number `q` to.

* `rankLimit_le_nearestRank_iff`: rounding leaves the finite range exactly from
  `overflowLimit` on.  The limit is as near to the greatest finite magnitude as to the
  magnitude that would follow it, and the tie goes to the latter, since the rank of the
  former is odd.
* `isRounding_ofUnits`: rounding a quotient is rounding by the standard.
* `IsRounding.eq_of_isNegative`: the standard leaves no choice but the sign of a zero.
  Two nearest numbers with even significands would have a number between them, which
  would be nearer (`exists_between_of_even`).
* `IsRounding.isAtMost`: rounding keeps the order, infinities included.

The last two follow from `IsRounding` alone, whatever it is that rounds.
-/

namespace LineArithmetic.Binary64

/-! ## The end of the finite range -/

/-- From this magnitude on numbers are rounded to infinity. -/
def overflowLimit : ℚ := 2 ^ 1024 - 2 ^ 970

theorem overflowLimit_pos : 0 < overflowLimit :=
  sub_pos.mpr (pow_lt_pow_right₀ one_lt_two (by decide))

theorem two_pow_lt_overflowLimit : 2 ^ 53 < overflowLimit := by
  have hsmall : (2 : ℚ) ^ 53 ≤ 2 ^ 970 := pow_le_pow_right₀ one_le_two (by decide)
  have hlarge : (2 : ℚ) ^ 971 < 2 ^ 1024 := pow_lt_pow_right₀ one_lt_two (by decide)
  rw [pow_succ] at hlarge
  unfold overflowLimit
  -- arithmetic would compute the great powers
  generalize (2 : ℚ) ^ 970 = half at *
  generalize (2 : ℚ) ^ 1024 = next at *
  linarith

/-- The magnitudes in front of the limit and behind it are half a step away from it. -/
theorem exists_units_at_limit : ∃ half, 0 < half ∧
    unitsOfRank (rankLimit - 1) = (2 ^ 54 - 2) * half ∧
    unitsOfRank rankLimit = 2 ^ 54 * half ∧
    overflowLimit * unitsPerOne = ((2 ^ 54 - 1) * half : Nat) := by
  obtain ⟨e, he, hunit⟩ := unitsPerOne_eq
  obtain ⟨f, hf⟩ : ∃ f, f = 970 := ⟨970, rfl⟩
  have hstep : 2045 = e + f + 1 := by omega
  have hlast : rankLimit - 1 = 2045 * 2 ^ 52 + (2 ^ 53 - 1) := rfl
  have hnext : rankLimit = 2045 * 2 ^ 52 + 2 ^ 53 := rfl
  refine ⟨2 ^ (e + f), Nat.two_pow_pos _, ?_, ?_, ?_⟩
  · rw [hlast, unitsOfRank_block (by decide) (Or.inr (by decide)), hstep]
    ring
  · rw [hnext, unitsOfRank_block (by decide) (Or.inr (by decide)), hstep]
    ring
  · have hexponent : 1024 = 54 + f := by omega
    rw [overflowLimit, hunit, hexponent, ← hf, Nat.cast_mul, Nat.cast_pow, Nat.cast_pow]
    norm_num
    ring

section Limit

variable {num den : Nat}

/-- A quotient is rounded beyond the finite range exactly from the limit on. -/
theorem rankLimit_le_nearestRank_iff {half : Nat} (hhalf : 0 < half) (hden : 0 < den)
    (hlast : unitsOfRank (rankLimit - 1) = (2 ^ 54 - 2) * half)
    (hnext : unitsOfRank rankLimit = 2 ^ 54 * half) :
    rankLimit ≤ nearestRank num den ↔ (2 ^ 54 - 1) * half * den ≤ num := by
  have hpos : 0 < half * den := Nat.mul_pos hhalf hden
  have hsteps : ∀ k, k * half * den = k * (half * den) := fun k => Nat.mul_assoc k half den
  constructor
  · intro hbeyond
    have hunits : 2 ^ 54 * half ≤ unitsOfRank (nearestRank num den) := by
      rw [← hnext]
      exact unitsOfRank_strictMono.monotone hbeyond
    have hmul := Nat.mul_le_mul_right den hunits
    have hnear := distance_nearestRank_le num hden (rankLimit - 1)
    rw [hlast] at hnear
    unfold distance at hnear
    rw [hsteps] at hnear hmul ⊢
    omega
  · intro hlarge
    by_contra hwithin
    have hunits : unitsOfRank (nearestRank num den) ≤ (2 ^ 54 - 2) * half := by
      rw [← hlast]
      exact unitsOfRank_strictMono.monotone (by omega)
    have hmul := Nat.mul_le_mul_right den hunits
    have hnear := distance_nearestRank_le num hden rankLimit
    rw [hsteps] at hlarge hmul
    -- the quotient is halfway, and the rank would be the last one, which is odd
    have hhalfway : num = (2 ^ 54 - 1) * (half * den) ∧
        unitsOfRank (nearestRank num den) * den = (2 ^ 54 - 2) * (half * den) := by
      rw [hnext] at hnear
      unfold distance at hnear
      rw [hsteps] at hnear
      omega
    have hrank : nearestRank num den = rankLimit - 1 := by
      apply unitsOfRank_injective
      rw [hlast]
      refine Nat.eq_of_mul_eq_mul_right hden ?_
      rw [hhalfway.2, hsteps]
    have htie : distance num den (unitsOfRank rankLimit) =
        distance num den (unitsOfRank (nearestRank num den)) := by
      unfold distance
      rw [hhalfway.2, hnext, hsteps]
      omega
    have heven := nearestRank_even hden (by omega) htie
    rw [hrank] at heven
    exact absurd heven (by decide)

/-- The same, with the quotient as a rational number. -/
theorem nearestRank_lt_rankLimit_iff (hden : 0 < den) :
    nearestRank num den < rankLimit ↔ (num : ℚ) / (den * unitsPerOne : Nat) < overflowLimit := by
  obtain ⟨half, hhalf, hlast, hnext, hlimit⟩ := exists_units_at_limit
  have hscale : (0 : ℚ) < (den * unitsPerOne : Nat) :=
    Nat.cast_pos.mpr (Nat.mul_pos hden unitsPerOne_pos)
  have hunits : overflowLimit * (den * unitsPerOne : Nat) = ((2 ^ 54 - 1) * half * den : Nat) := by
    rw [Nat.cast_mul, Nat.cast_mul _ den, ← hlimit]
    ring
  rw [← not_le, ← not_le, not_iff_not, le_div_iff₀ hscale, hunits, Nat.cast_le]
  exact rankLimit_le_nearestRank_iff hhalf hden hlast hnext

end Limit

/-! ## Rounding by the standard -/

/-- What the standard rounds a rational number to: below the limit a nearest number, and
from the limit on the infinity of its sign. -/
structure IsRounding (x : Binary64) (q : ℚ) : Prop where
  nearest : |q| < overflowLimit → x.IsNearest q
  infinite : overflowLimit ≤ |q| → x = .infinite (decide (q < 0))

section Quotients

variable {num den : Nat} (s : Bool)

theorem abs_signed_div (num den : Nat) :
    |(signed s num : ℚ) / (den : ℚ)| = (num : ℚ) / den := by
  rw [abs_div, Nat.abs_cast]
  cases s <;> simp [signed]

theorem signed_div_neg_iff {num den : Nat} (hpos : (0 : ℚ) < num / den) :
    (signed s num : ℚ) / den < 0 ↔ s = true := by
  cases s with
  | false => simpa [signed] using hpos.le
  | true => simpa [signed, neg_div] using hpos

/-- Rounding a quotient with a sign is rounding by the standard. -/
theorem isRounding_ofUnits (num : Nat) (hden : 0 < den) :
    IsRounding (ofUnits s num den) (signed s num / (den * unitsPerOne : Nat)) := by
  constructor
  · intro hsmall
    rw [abs_signed_div, ← nearestRank_lt_rankLimit_iff hden] at hsmall
    exact isNearest_ofUnits s hden hsmall
  · intro hlarge
    rw [abs_signed_div] at hlarge
    have hbeyond : ¬ nearestRank num den < rankLimit := by
      rw [nearestRank_lt_rankLimit_iff hden]
      exact not_lt.mpr hlarge
    have hsign := signed_div_neg_iff s (lt_of_lt_of_le overflowLimit_pos hlarge)
    rw [ofUnits, dif_neg hbeyond]
    simp only [hsign, Bool.decide_eq_true]

end Quotients

/-! ## Rounding leaves no choice -/

/-- The number of units at a place in the list of all finite numbers, where negative
places count backwards from zero. -/
def unitsAt (place : Int) : Int :=
  signed (decide (place < 0)) (unitsOfRank place.natAbs)

theorem unitsAt_natCast (rank : Nat) : unitsAt rank = unitsOfRank rank := by
  have hsign : decide ((rank : Int) < 0) = false := decide_eq_false (by omega)
  rw [unitsAt, hsign, Int.natAbs_natCast, signed_false]

theorem unitsAt_neg (place : Int) : unitsAt (-place) = -unitsAt place := by
  unfold unitsAt
  rw [Int.natAbs_neg]
  rcases Int.lt_trichotomy place 0 with hlt | rfl | hgt
  · simp [signed, hlt, hlt.le]
  · simp [signed, (unitsOfRank_eq_zero_iff 0).mpr rfl]
  · simp [signed, hgt, hgt.le]

theorem signedUnits_eq_unitsAt (s : Bool) (rank : Fin rankLimit) :
    (finite s rank).signedUnits = unitsAt (signed s rank) := by
  cases s with
  | false => exact (unitsAt_natCast rank).symm
  | true =>
    show -(unitsOfRank rank : Int) = unitsAt (-(rank : Nat))
    rw [unitsAt_neg, unitsAt_natCast]

/-- The order of places is the order of numbers. -/
theorem unitsAt_strictMono : StrictMono unitsAt := by
  refine strictMono_int_of_lt_succ fun place => ?_
  rcases lt_or_ge place 0 with hneg | hnonneg
  · obtain ⟨rank, rfl⟩ : ∃ rank : Nat, place = -((rank + 1 : Nat) : Int) :=
      ⟨place.natAbs - 1, by omega⟩
    have hnext : -((rank + 1 : Nat) : Int) + 1 = -(rank : Int) := by omega
    have hlt : unitsOfRank rank < unitsOfRank (rank + 1) := unitsOfRank_strictMono rank.lt_succ_self
    rw [hnext, unitsAt_neg, unitsAt_neg, unitsAt_natCast, unitsAt_natCast]
    omega
  · obtain ⟨rank, rfl⟩ := Int.eq_ofNat_of_zero_le hnonneg
    have hlt : unitsOfRank rank < unitsOfRank (rank + 1) := unitsOfRank_strictMono rank.lt_succ_self
    have hnext : (rank : Int) + 1 = (rank + 1 : Nat) := by omega
    rw [hnext, unitsAt_natCast, unitsAt_natCast]
    omega

/-- The finite number at a place. -/
theorem exists_signedUnits_eq {place : Int} (h : place.natAbs < rankLimit) :
    ∃ z : Binary64, z.isFinite = true ∧ z.signedUnits = unitsAt place := by
  refine ⟨.finite (decide (place < 0)) ⟨place.natAbs, h⟩, rfl, ?_⟩
  rw [signedUnits_eq_unitsAt, signed_natAbs]

theorem toRat_lt_iff {x y : Binary64} : x.toRat < y.toRat ↔ x.signedUnits < y.signedUnits := by
  have hunit : (0 : ℚ) < unitsPerOne := Nat.cast_pos.mpr unitsPerOne_pos
  rw [toRat, toRat, div_lt_div_iff_of_pos_right hunit, Int.cast_lt]

/-- Between two numbers with even significands lies a number with an odd one. -/
theorem exists_between_of_even {x y : Binary64} (hx : x.HasEvenSignificand)
    (hy : y.HasEvenSignificand) (hlt : x.toRat < y.toRat) :
    ∃ z : Binary64, z.isFinite = true ∧ x.toRat < z.toRat ∧ z.toRat < y.toRat := by
  cases x with
  | nan | infinite => exact hx.elim
  | finite s m =>
    cases y with
    | nan | infinite => exact hy.elim
    | finite t n =>
      have hm : m.val % 2 = 0 := by
        rw [← significand_mod_two]
        exact hx
      have hn : n.val % 2 = 0 := by
        rw [← significand_mod_two]
        exact hy
      have hmlt := m.isLt
      have hnlt := n.isLt
      rw [toRat_lt_iff, signedUnits_eq_unitsAt, signedUnits_eq_unitsAt,
        unitsAt_strictMono.lt_iff_lt] at hlt
      have hgap : signed s m + 1 < signed t n ∧ (signed s m + 1).natAbs < rankLimit := by
        unfold signed at hlt ⊢
        split_ifs at hlt ⊢ <;> omega
      obtain ⟨z, hfinite, hz⟩ := exists_signedUnits_eq hgap.2
      refine ⟨z, hfinite, ?_, ?_⟩
      · rw [toRat_lt_iff, hz, signedUnits_eq_unitsAt]
        exact unitsAt_strictMono (by omega)
      · rw [toRat_lt_iff, hz, signedUnits_eq_unitsAt]
        exact unitsAt_strictMono hgap.1

section Unique

variable {x y : Binary64} {q : ℚ}

/-- If a number lies between two that are equally near, it is nearer. -/
theorem abs_sub_lt_of_between {a b c : ℚ} (hab : a < b) (hbc : b < c)
    (heq : |a - q| = |c - q|) : |b - q| < |a - q| := by
  have hlow := neg_abs_le (a - q)
  have hhigh := le_abs_self (c - q)
  rw [abs_lt]
  constructor <;> linarith

/-- A rational number is rounded to one number. -/
theorem IsNearest.toRat_eq (hx : x.IsNearest q) (hy : y.IsNearest q) : x.toRat = y.toRat := by
  have heq : |x.toRat - q| = |y.toRat - q| :=
    le_antisymm (hx.nearest y hy.isFinite) (hy.nearest x hx.isFinite)
  by_contra hne
  have hxeven : x.HasEvenSignificand := hx.even y hy.isFinite (Ne.symm hne) heq.symm
  have hyeven : y.HasEvenSignificand := hy.even x hx.isFinite hne heq
  rcases lt_or_gt_of_ne hne with hlt | hgt
  · obtain ⟨z, hz, hxz, hzy⟩ := exists_between_of_even hxeven hyeven hlt
    exact absurd (hx.nearest z hz) (not_le.mpr (abs_sub_lt_of_between hxz hzy heq))
  · obtain ⟨z, hz, hyz, hzx⟩ := exists_between_of_even hyeven hxeven hgt
    exact absurd (hy.nearest z hz) (not_le.mpr (abs_sub_lt_of_between hyz hzx heq.symm))

/-- A finite number is determined by its value and its sign. -/
theorem eq_of_toRat_eq (hx : x.isFinite = true) (hy : y.isFinite = true)
    (hvalue : x.toRat = y.toRat) (hsign : x.isNegative = y.isNegative) : x = y := by
  cases x with
  | nan | infinite => cases hx
  | finite s m =>
    cases y with
    | nan | infinite => cases hy
    | finite t n =>
      obtain rfl : s = t := hsign
      have hunit : (unitsPerOne : ℚ) ≠ 0 := Nat.cast_ne_zero.mpr unitsPerOne_pos.ne'
      rw [toRat, toRat, div_left_inj' hunit, Int.cast_inj, signedUnits_finite,
        signedUnits_finite] at hvalue
      have habs := congrArg Int.natAbs hvalue
      rw [natAbs_signed, natAbs_signed] at habs
      rw [Fin.ext (unitsOfRank_injective habs)]

/-- The standard leaves no choice but the sign, which shows in a zero only. -/
theorem IsRounding.eq_of_isNegative (hx : x.IsRounding q) (hy : y.IsRounding q)
    (hsign : x.isNegative = y.isNegative) : x = y := by
  rcases lt_or_ge |q| overflowLimit with hsmall | hlarge
  · have hxnear := hx.nearest hsmall
    have hynear := hy.nearest hsmall
    exact eq_of_toRat_eq hxnear.isFinite hynear.isFinite (hxnear.toRat_eq hynear) hsign
  · rw [hx.infinite hlarge, hy.infinite hlarge]

end Unique

/-! ## Rounding keeps the order -/

/-- A number among the rational numbers and the two infinities; the number that stands for
no value is not among them. -/
def extended? : Binary64 → Option (WithBot (WithTop ℚ))
  | .nan => none
  | .infinite negative => some (if negative then ⊥ else ⊤)
  | .finite s rank => some ((finite s rank).toRat : WithTop ℚ)

/-- Whether a number is at most another one. -/
def IsAtMost (x y : Binary64) : Prop :=
  ∃ p q, x.extended? = some p ∧ y.extended? = some q ∧ p ≤ q

section Order

variable {x y : Binary64} {q r : ℚ}

theorem extended?_of_isFinite (h : x.isFinite = true) :
    x.extended? = some (x.toRat : WithTop ℚ) := by
  cases x with
  | nan | infinite => cases h
  | finite s rank => rfl

/-- A rational number is rounded to an infinity or to a nearest number, by where it
lies. -/
theorem IsRounding.cases (hx : x.IsRounding q) :
    (q ≤ -overflowLimit ∧ x = .infinite true) ∨ (|q| < overflowLimit ∧ x.IsNearest q) ∨
      (overflowLimit ≤ q ∧ x = .infinite false) := by
  have hpos := overflowLimit_pos
  rcases lt_or_ge |q| overflowLimit with hsmall | hlarge
  · exact Or.inr (Or.inl ⟨hsmall, hx.nearest hsmall⟩)
  · have hinfinite := hx.infinite hlarge
    rcases le_abs'.mp hlarge with hlow | hhigh
    · have hsign : decide (q < 0) = true := decide_eq_true (by linarith)
      exact Or.inl ⟨hlow, hsign ▸ hinfinite⟩
    · have hsign : decide (q < 0) = false := decide_eq_false (by linarith)
      exact Or.inr (Or.inr ⟨hhigh, hsign ▸ hinfinite⟩)

theorem IsRounding.exists_extended? (hx : x.IsRounding q) : ∃ p, x.extended? = some p := by
  rcases hx.cases with ⟨-, rfl⟩ | ⟨-, hnear⟩ | ⟨-, rfl⟩
  · exact ⟨⊥, rfl⟩
  · exact ⟨_, extended?_of_isFinite hnear.isFinite⟩
  · exact ⟨⊤, rfl⟩

/-- Of two numbers the nearer one to a target lies on the same side of their middle. -/
theorem add_le_two_mul_of_abs_sub_le {a b : ℚ} (hlt : b < a) (h : |a - q| ≤ |b - q|) :
    a + b ≤ 2 * q := by
  by_contra hbelow
  have hnear : |b - q| < a - q := abs_lt.mpr ⟨by linarith, by linarith⟩
  have hfar : a - q ≤ |a - q| := le_abs_self (a - q)
  linarith

/-- A number that is nearest to a greater rational number is not smaller. -/
theorem IsNearest.toRat_le (hx : x.IsNearest q) (hy : y.IsNearest r) (hqr : q ≤ r) :
    x.toRat ≤ y.toRat := by
  by_contra hlt
  rw [not_le] at hlt
  have hq : x.toRat + y.toRat ≤ 2 * q :=
    add_le_two_mul_of_abs_sub_le hlt (hx.nearest y hy.isFinite)
  have hr : -y.toRat + -x.toRat ≤ 2 * -r := by
    refine add_le_two_mul_of_abs_sub_le (neg_lt_neg hlt) ?_
    rw [neg_sub_neg, neg_sub_neg, abs_sub_comm r, abs_sub_comm r]
    exact hy.nearest x hx.isFinite
  -- both targets would lie in the middle
  obtain rfl : q = r := by linarith
  exact hlt.ne' (hx.toRat_eq hy)

/-- What a greater rational number is rounded to is not smaller. -/
theorem IsRounding.isAtMost (hx : x.IsRounding q) (hy : y.IsRounding r) (hqr : q ≤ r) :
    x.IsAtMost y := by
  obtain ⟨p, hp⟩ := hx.exists_extended?
  obtain ⟨t, ht⟩ := hy.exists_extended?
  rcases hx.cases with ⟨hq, rfl⟩ | ⟨hq, hxnear⟩ | ⟨hq, rfl⟩
  · exact ⟨⊥, t, rfl, ht, bot_le⟩
  · rcases hy.cases with ⟨hr, rfl⟩ | ⟨-, hynear⟩ | ⟨-, rfl⟩
    · have hlow := neg_abs_le q
      linarith
    · refine ⟨_, _, extended?_of_isFinite hxnear.isFinite,
        extended?_of_isFinite hynear.isFinite, ?_⟩
      rw [WithBot.coe_le_coe, WithTop.coe_le_coe]
      exact hxnear.toRat_le hynear hqr
    · exact ⟨p, ⊤, hp, rfl, le_top⟩
  · rcases hy.cases with ⟨hr, rfl⟩ | ⟨hr, hynear⟩ | ⟨-, rfl⟩
    · have hpos := overflowLimit_pos
      linarith
    · have hhigh := le_abs_self r
      linarith
    · exact ⟨⊤, ⊤, rfl, rfl, le_rfl⟩

end Order

end LineArithmetic.Binary64
