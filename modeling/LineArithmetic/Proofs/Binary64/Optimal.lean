import LineArithmetic.Proofs.Binary64.Decimals
import Mathlib.Algebra.Order.Field.Basic
import Mathlib.Algebra.Order.Field.Rat
import Mathlib.Tactic.FieldSimp

/-!
# Rounding is optimal

`Nearest` bounds the error of a rounded magnitude by half a step of its own
grid.  This module compares it with every other number of the format, also with
those of other blocks.

* `distance_divNearestEven_le` and `divNearestEven_even`: the rounded quotient is a
  nearest integer, and an even one if there are two.
* `distance_nearestRank_le` and `nearestRank_even`: the same for magnitudes.  A
  magnitude off the grid of a quotient lies below the block of the quotient, so the
  first magnitude of the block is nearer.
* `nearestRank_mono`: so a larger quotient is not rounded to a smaller rank.
* `IsNearest x q`: `x` is what the format rounds the rational number `q` to.
  `isNearest_ofUnits` says it of every finite result of rounding.
-/

namespace LineArithmetic.Binary64

/-! ## Distances -/

/-- How far a number of units is from the quotient `num / den`, in parts of the
divisor. -/
def distance (num den units : Nat) : Nat :=
  ((units * den : Nat) - (num : Int)).natAbs

section Quotients

variable {num den : Nat}

/-- The rounded quotient is at most a half away from the exact one. -/
theorem two_mul_distance_divNearestEven_le (num : Nat) (hden : 0 < den) :
    2 * distance num den (divNearestEven num den) ≤ den := by
  obtain ⟨hlow, hhigh⟩ := divNearestEven_bounds num hden
  unfold distance
  omega

/-- Exactly a half away, the rounded quotient is even. -/
theorem divNearestEven_even_of_half (hden : 0 < den)
    (h : 2 * distance num den (divNearestEven num den) = den) :
    divNearestEven num den % 2 = 0 := by
  have hdiv : num / den * den + num % den = num := Nat.div_add_mod' num den
  have hmod : num % den < den := Nat.mod_lt num hden
  have hsucc : (num / den + 1) * den = num / den * den + den := Nat.succ_mul _ _
  unfold divNearestEven distance at h
  unfold divNearestEven
  dsimp only at h ⊢
  split <;> rename_i hrest
  · rw [if_pos hrest] at h
    omega
  · rw [if_neg hrest] at h
    omega

/-- Two integers are a whole part of the divisor apart, so together at least as
far from any quotient. -/
theorem le_distance_add_distance (num den : Nat) {j k : Nat} (hne : j ≠ k) :
    den ≤ distance num den j + distance num den k := by
  have hapart : j * den + den ≤ k * den ∨ k * den + den ≤ j * den := by
    rw [← Nat.succ_mul, ← Nat.succ_mul]
    exact (Nat.lt_or_gt_of_ne hne).imp (Nat.mul_le_mul_right den) (Nat.mul_le_mul_right den)
  unfold distance
  omega

/-- No integer is nearer to a quotient than the rounded one. -/
theorem distance_divNearestEven_le (num : Nat) (hden : 0 < den) (k : Nat) :
    distance num den (divNearestEven num den) ≤ distance num den k := by
  have hhalf := two_mul_distance_divNearestEven_le num hden
  by_cases hk : k = divNearestEven num den
  · rw [hk]
  · have hsum := le_distance_add_distance num den hk
    omega

/-- If another integer is as near as the rounded one, the rounded one is even. -/
theorem divNearestEven_even (hden : 0 < den) {k : Nat} (hne : k ≠ divNearestEven num den)
    (h : distance num den k = distance num den (divNearestEven num den)) :
    divNearestEven num den % 2 = 0 := by
  have hhalf := two_mul_distance_divNearestEven_le num hden
  have hsum := le_distance_add_distance num den hne
  exact divNearestEven_even_of_half hden (by omega)

/-! ## Magnitudes -/

/-- A magnitude on the grid of a quotient is as far from it as the number of
steps. -/
theorem distance_mul_two_pow (num den k step : Nat) :
    distance num den (k * 2 ^ step) = distance num (den * 2 ^ step) k := by
  have hmul : k * 2 ^ step * den = k * (den * 2 ^ step) := by ring
  rw [distance, distance, hmul]

theorem distance_nearestRank (num : Nat) (hden : 0 < den) :
    distance num den (unitsOfRank (nearestRank num den)) =
      distance num (den * 2 ^ gridStep num den)
        (divNearestEven num (den * 2 ^ gridStep num den)) := by
  rw [unitsOfRank_nearestRank num hden, distance_mul_two_pow]

/-- A magnitude is on the grid of a quotient, or strictly farther from the
quotient than the first magnitude of the quotient's block. -/
theorem exists_steps_or_farther (num : Nat) (hden : 0 < den) (rank : Nat) :
    (∃ k, unitsOfRank rank = k * 2 ^ gridStep num den) ∨
      distance num den (2 ^ 52 * 2 ^ gridStep num den) < distance num den (unitsOfRank rank) := by
  obtain ⟨step, k, rfl, hk, hblock⟩ := exists_block rank
  rw [unitsOfRank_block hk.le hblock]
  rcases Nat.lt_or_ge step (gridStep num den) with hlt | hge
  · right
    have hfirst : 2 ^ 52 * (den * 2 ^ gridStep num den) ≤ num :=
      (gridStep_le num hden).resolve_left (by omega)
    have hunits : k * 2 ^ step < 2 ^ 52 * 2 ^ gridStep num den := by
      calc k * 2 ^ step < 2 ^ 53 * 2 ^ step := Nat.mul_lt_mul_of_pos_right hk (Nat.two_pow_pos _)
        _ = 2 ^ 52 * 2 ^ (step + 1) := by ring
        _ ≤ 2 ^ 52 * 2 ^ gridStep num den :=
            Nat.mul_le_mul_left _ (Nat.pow_le_pow_right (by decide) hlt)
    have hparts : k * 2 ^ step * den < 2 ^ 52 * 2 ^ gridStep num den * den :=
      Nat.mul_lt_mul_of_pos_right hunits hden
    have hgrid : 2 ^ 52 * (den * 2 ^ gridStep num den) = 2 ^ 52 * 2 ^ gridStep num den * den := by
      ring
    unfold distance
    omega
  · left
    refine ⟨k * 2 ^ (step - gridStep num den), ?_⟩
    rw [Nat.mul_assoc, ← pow_add, Nat.sub_add_cancel hge]

/-- No magnitude is nearer to a quotient than the one it is rounded to. -/
theorem distance_nearestRank_le (num : Nat) (hden : 0 < den) (rank : Nat) :
    distance num den (unitsOfRank (nearestRank num den)) ≤
      distance num den (unitsOfRank rank) := by
  have hgrid : 0 < den * 2 ^ gridStep num den := Nat.mul_pos hden (Nat.two_pow_pos _)
  rw [distance_nearestRank num hden]
  rcases exists_steps_or_farther num hden rank with ⟨k, hk⟩ | hfarther
  · rw [hk, distance_mul_two_pow]
    exact distance_divNearestEven_le num hgrid k
  · rw [distance_mul_two_pow] at hfarther
    exact (distance_divNearestEven_le num hgrid (2 ^ 52)).trans hfarther.le

/-- If another magnitude is as near as the one that a quotient is rounded to,
that one has an even rank. -/
theorem nearestRank_even (hden : 0 < den) {rank : Nat} (hne : rank ≠ nearestRank num den)
    (h : distance num den (unitsOfRank rank) =
      distance num den (unitsOfRank (nearestRank num den))) : nearestRank num den % 2 = 0 := by
  have hgrid : 0 < den * 2 ^ gridStep num den := Nat.mul_pos hden (Nat.two_pow_pos _)
  rw [distance_nearestRank num hden] at h
  rcases exists_steps_or_farther num hden rank with ⟨k, hk⟩ | hfarther
  · have hsteps : k ≠ divNearestEven num (den * 2 ^ gridStep num den) := by
      rintro rfl
      exact hne (unitsOfRank_injective (hk.trans (unitsOfRank_nearestRank num hden).symm))
    rw [hk, distance_mul_two_pow] at h
    have heven := divNearestEven_even hgrid hsteps h
    rw [nearestRank_eq]
    omega
  · rw [distance_mul_two_pow] at hfarther
    have hle := distance_divNearestEven_le num hgrid (2 ^ 52)
    omega

/-- A larger quotient is not rounded to a smaller rank. -/
theorem nearestRank_mono {num' den' : Nat} (hden : 0 < den) (hden' : 0 < den')
    (h : num * den' ≤ num' * den) : nearestRank num den ≤ nearestRank num' den' := by
  by_contra hlt
  have hunits := unitsOfRank_strictMono (Nat.lt_of_not_le hlt)
  have hnear := distance_nearestRank_le num hden (nearestRank num' den')
  have hnear' := distance_nearestRank_le num' hden' (nearestRank num den)
  have hcongr : num * den' ≠ num' * den := fun heq => hlt (nearestRank_congr hden hden' heq).le
  generalize unitsOfRank (nearestRank num den) = u at *
  generalize unitsOfRank (nearestRank num' den') = u' at *
  -- the quotients lie on the wrong sides of the midpoint of the two magnitudes
  have hhigh : (u + u') * den ≤ 2 * num := by
    have hmul : u' * den < u * den := Nat.mul_lt_mul_of_pos_right hunits hden
    unfold distance at hnear
    rw [Nat.add_mul]
    omega
  have hlow : 2 * num' ≤ (u + u') * den' := by
    have hmul : u' * den' < u * den' := Nat.mul_lt_mul_of_pos_right hunits hden'
    unfold distance at hnear'
    rw [Nat.add_mul]
    omega
  have hcross : 2 * (num' * den) ≤ 2 * (num * den') := by
    calc 2 * (num' * den) = 2 * num' * den := (Nat.mul_assoc _ _ _).symm
      _ ≤ (u + u') * den' * den := Nat.mul_le_mul_right den hlow
      _ = (u + u') * den * den' := Nat.mul_right_comm _ _ _
      _ ≤ 2 * num * den' := Nat.mul_le_mul_right den' hhigh
      _ = 2 * (num * den') := Nat.mul_assoc _ _ _
  omega

end Quotients

/-! ## The nearest number -/

/-- The rational number that a finite number is; the others count as zero. -/
def toRat (x : Binary64) : ℚ :=
  x.signedUnits / unitsPerOne

/-- The significand of a magnitude: how many of its steps it is. -/
def significand (rank : Nat) : Nat :=
  rank - stepOfRank rank * 2 ^ 52

/-- Whether a number is finite and its significand even. -/
def HasEvenSignificand : Binary64 → Prop
  | .finite _ rank => significand rank % 2 = 0
  | _ => False

/-- A finite number is what the format rounds a rational number to: no finite number
is nearer, and if another one is as near, the significand is even. -/
structure IsNearest (x : Binary64) (q : ℚ) : Prop where
  isFinite : x.isFinite = true
  nearest : ∀ y : Binary64, y.isFinite = true → |x.toRat - q| ≤ |y.toRat - q|
  even : ∀ y : Binary64, y.isFinite = true → y.toRat ≠ x.toRat →
    |y.toRat - q| = |x.toRat - q| → x.HasEvenSignificand

/-- The parity of a rank is that of its significand. -/
theorem significand_mod_two (rank : Nat) : significand rank % 2 = rank % 2 := by
  unfold significand stepOfRank
  rw [Nat.pow_eq]
  omega

section Signed

variable {num den : Nat} (s t : Bool)

/-- The distance of a number from a signed quotient, in parts of the divisor. -/
def signedDistance (s : Bool) (num den : Nat) (t : Bool) (units : Nat) : Nat :=
  if t = s then distance num den units else units * den + num

theorem natAbs_signed_sub (units : Nat) :
    (signed t units * den - signed s num).natAbs = signedDistance s num den t units := by
  unfold signedDistance distance
  cases s <;> cases t <;> simp [signed] <;> omega

/-- Distances of rational numbers are compared as natural numbers. -/
theorem abs_toRat_sub (hden : 0 < den) (rank : Fin rankLimit) :
    |(finite t rank).toRat - signed s num / (den * unitsPerOne : Nat)| =
      signedDistance s num den t (unitsOfRank rank) / (den * unitsPerOne : Nat) := by
  have hunit : (0 : ℚ) < unitsPerOne := Nat.cast_pos.mpr unitsPerOne_pos
  have hdenQ : (0 : ℚ) < den := Nat.cast_pos.mpr hden
  rw [← natAbs_signed_sub s t, Nat.cast_natAbs, toRat, signedUnits_finite, Nat.cast_mul]
  generalize (unitsPerOne : ℚ) = unit at hunit ⊢
  have hsub : (signed t (unitsOfRank rank) : ℚ) / unit - signed s num / (den * unit) =
      (signed t (unitsOfRank rank) * den - signed s num) / (den * unit) := by
    field_simp
  rw [hsub, abs_div, abs_of_pos (mul_pos hdenQ hunit)]
  push_cast
  rfl

/-- No number, of either sign, is nearer to a signed quotient than the magnitude it
is rounded to with its sign. -/
theorem signedDistance_nearestRank_le (num : Nat) (hden : 0 < den) (rank : Nat) :
    signedDistance s num den s (unitsOfRank (nearestRank num den)) ≤
      signedDistance s num den t (unitsOfRank rank) := by
  unfold signedDistance
  rw [if_pos rfl]
  split
  · exact distance_nearestRank_le num hden rank
  · have hzero := distance_nearestRank_le num hden 0
    rw [(unitsOfRank_eq_zero_iff 0).mpr rfl] at hzero
    refine hzero.trans ?_
    unfold distance
    omega

theorem nearestRank_even_of_signedDistance (hden : 0 < den) {rank : Nat}
    (hne : signed t (unitsOfRank rank) ≠ signed s (unitsOfRank (nearestRank num den)))
    (h : signedDistance s num den t (unitsOfRank rank) =
      signedDistance s num den s (unitsOfRank (nearestRank num den))) :
    nearestRank num den % 2 = 0 := by
  unfold signedDistance at h
  rw [if_pos rfl] at h
  split at h
  · rename_i hsign
    refine nearestRank_even hden ?_ h
    rintro rfl
    exact hne (by rw [hsign])
  · -- a number of the other sign is as near only if it is zero
    by_cases hzero : 0 = nearestRank num den
    · rw [← hzero]
    · refine nearestRank_even hden hzero ?_
      have hle := distance_nearestRank_le num hden 0
      rw [(unitsOfRank_eq_zero_iff 0).mpr rfl] at hle ⊢
      unfold distance at h hle ⊢
      omega

/-- A quotient that is rounded to a finite number is rounded to a nearest one. -/
theorem isNearest_ofUnits (hden : 0 < den) (hfinite : nearestRank num den < rankLimit) :
    IsNearest (ofUnits s num den) (signed s num / (den * unitsPerOne : Nat)) := by
  have hround : ofUnits s num den = .finite s ⟨_, hfinite⟩ := dif_pos hfinite
  have hscale : (0 : ℚ) < (den * unitsPerOne : Nat) :=
    Nat.cast_pos.mpr (Nat.mul_pos hden unitsPerOne_pos)
  rw [hround]
  refine ⟨rfl, fun y hy => ?_, fun y hy hne htie => ?_⟩
  · cases y with
    | nan => cases hy
    | infinite t => cases hy
    | finite t rank =>
      rw [abs_toRat_sub s s hden, abs_toRat_sub s t hden, div_le_div_iff_of_pos_right hscale,
        Nat.cast_le]
      exact signedDistance_nearestRank_le s t num hden rank
  · cases y with
    | nan => cases hy
    | infinite t => cases hy
    | finite t rank =>
      rw [abs_toRat_sub s s hden, abs_toRat_sub s t hden, div_left_inj' hscale.ne',
        Nat.cast_inj] at htie
      show significand (nearestRank num den) % 2 = 0
      rw [significand_mod_two]
      refine nearestRank_even_of_signedDistance s t hden ?_ htie
      intro hsame
      apply hne
      rw [toRat, toRat, signedUnits_finite, signedUnits_finite, hsame]

end Signed

end LineArithmetic.Binary64
