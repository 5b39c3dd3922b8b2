import LineArithmetic.Binary64.Arithmetic
import Mathlib.Algebra.Order.Ring.Nat
import Mathlib.Tactic.Ring

/-!
# The rounded magnitude is a nearest one

`nearestRank` divides on a grid whose step is a power of two.  This module
says which one, and what the magnitude of the rank is, without mentioning
ranks again.

* `lt_gridStep` and `gridStep_le`: the step is the one of the block that the
  quotient lies in, or the least one.
* `unitsOfRank_nearestRank`: the magnitude is the rounded quotient times the
  step, also where the rounding carries into the next block.
* `unitsOfRank_nearestRank_bounds`: so it is within half a step of the exact
  quotient.  All quotients are compared after multiplying with the divisor.
-/

namespace LineArithmetic.Binary64

/-! ## Rounding a quotient -/

/-- The rounded quotient is within a half of the exact one. -/
theorem divNearestEven_bounds (num : Nat) {den : Nat} (hden : 0 < den) :
    2 * num ≤ 2 * (divNearestEven num den * den) + den ∧
      2 * (divNearestEven num den * den) ≤ 2 * num + den := by
  have hdiv : num / den * den + num % den = num := Nat.div_add_mod' num den
  have hmod : num % den < den := Nat.mod_lt num hden
  unfold divNearestEven
  dsimp only
  split
  · omega
  · rw [Nat.add_one_mul (num / den) den]
    omega

/-- A quotient of at most an integer is rounded to at most that integer. -/
theorem divNearestEven_le {num den k : Nat} (hden : 0 < den) (h : num ≤ k * den) :
    divNearestEven num den ≤ k := by
  by_contra hlt
  have hmul : (k + 1) * den ≤ divNearestEven num den * den :=
    Nat.mul_le_mul_right den (by omega)
  have hbound := (divNearestEven_bounds num hden).2
  rw [Nat.add_one_mul] at hmul
  omega

/-- A quotient of at least an integer is rounded to at least that integer. -/
theorem le_divNearestEven {num den k : Nat} (hden : 0 < den) (h : k * den ≤ num) :
    k ≤ divNearestEven num den := by
  by_contra hlt
  have hmul : (divNearestEven num den + 1) * den ≤ k * den :=
    Nat.mul_le_mul_right den (by omega)
  have hbound := (divNearestEven_bounds num hden).1
  rw [Nat.add_one_mul] at hmul
  omega

/-! ## The grid of a quotient -/

/-- The exponent of the step that `nearestRank` divides on. -/
def gridStep (num den : Nat) : Nat :=
  (num / den).log2 - 52

theorem nearestRank_eq (num den : Nat) :
    nearestRank num den =
      gridStep num den * 2 ^ 52 + divNearestEven num (den * 2 ^ gridStep num den) := rfl

/-- A quotient is less than `2 ^ 53` steps. -/
theorem lt_gridStep (num : Nat) {den : Nat} (hden : 0 < den) :
    num < 2 ^ 53 * (den * 2 ^ gridStep num den) := by
  have hlog : num / den < 2 ^ ((num / den).log2 + 1) := Nat.lt_log2_self
  have hpow : 2 ^ ((num / den).log2 + 1) ≤ 2 ^ (gridStep num den + 53) :=
    Nat.pow_le_pow_right (by decide) (by unfold gridStep; omega)
  have hlt : num < 2 ^ (gridStep num den + 53) * den :=
    (Nat.div_lt_iff_lt_mul hden).mp (Nat.lt_of_lt_of_le hlog hpow)
  calc num < 2 ^ (gridStep num den + 53) * den := hlt
    _ = 2 ^ 53 * (den * 2 ^ gridStep num den) := by ring

/-- A quotient is at least `2 ^ 52` steps, unless the step is the least one. -/
theorem gridStep_le (num : Nat) {den : Nat} (hden : 0 < den) :
    gridStep num den = 0 ∨ 2 ^ 52 * (den * 2 ^ gridStep num den) ≤ num := by
  by_cases hzero : gridStep num den = 0
  · exact Or.inl hzero
  · right
    have hstep : (num / den).log2 = gridStep num den + 52 := by
      unfold gridStep at hzero ⊢
      omega
    have hne : num / den ≠ 0 := by
      intro h
      simp [h] at hstep
    have hlog : 2 ^ (num / den).log2 ≤ num / den := Nat.log2_self_le hne
    rw [hstep, Nat.le_div_iff_mul_le hden] at hlog
    calc 2 ^ 52 * (den * 2 ^ gridStep num den)
        = 2 ^ (gridStep num den + 52) * den := by ring
      _ ≤ num := hlog

/-! ## The magnitude of a rank -/

/-- The magnitude of a block's first rank and a number of further ones.  Both
ends of the block are allowed, so that a carry needs no case of its own. -/
theorem unitsOfRank_block {step k : Nat} (hk : k ≤ 2 ^ 53) (hblock : step = 0 ∨ 2 ^ 52 ≤ k) :
    unitsOfRank (step * 2 ^ 52 + k) = k * 2 ^ step := by
  by_cases hlow : k < 2 ^ 52
  · have hstep : step = 0 := by omega
    subst hstep
    rw [Nat.zero_mul, Nat.zero_add, pow_zero, Nat.mul_one]
    exact unitsOfRank_of_lt (by rw [Nat.pow_eq]; omega)
  · by_cases htop : k = 2 ^ 53
    · have hnext : stepOfRank (step * 2 ^ 52 + k) = step + 1 := by
        unfold stepOfRank
        rw [Nat.pow_eq]
        omega
      have hfirst : step * 2 ^ 52 + k - (step + 1) * 2 ^ 52 = 2 ^ 52 := by omega
      unfold unitsOfRank
      rw [hnext, Nat.pow_eq, Nat.pow_eq, hfirst, htop]
      ring
    · have hsame : stepOfRank (step * 2 ^ 52 + k) = step := by
        unfold stepOfRank
        rw [Nat.pow_eq]
        omega
      unfold unitsOfRank
      rw [hsame, Nat.pow_eq, Nat.pow_eq, Nat.add_sub_cancel_left]

/-- A magnitude that is not zero has a rank that is not zero. -/
theorem unitsOfRank_eq_zero_iff (rank : Nat) : unitsOfRank rank = 0 ↔ rank = 0 := by
  unfold unitsOfRank stepOfRank
  rw [Nat.mul_eq_zero, Nat.pow_eq, Nat.pow_eq]
  have hpow : 2 ^ (rank / 2 ^ 52 - 1) ≠ 0 := pow_ne_zero _ (by decide)
  constructor
  · rintro (h | h)
    · omega
    · exact absurd h hpow
  · intro h
    left
    omega

/-- Every rank lies in a block, in front of its end. -/
theorem exists_block (rank : Nat) :
    ∃ step k, rank = step * 2 ^ 52 + k ∧ k < 2 ^ 53 ∧ (step = 0 ∨ 2 ^ 52 ≤ k) :=
  ⟨rank / 2 ^ 52 - 1, rank - (rank / 2 ^ 52 - 1) * 2 ^ 52, by omega, by omega, by omega⟩

/-- The order of ranks is the order of magnitudes. -/
theorem unitsOfRank_strictMono : StrictMono unitsOfRank := by
  refine strictMono_nat_of_lt_succ fun rank => ?_
  obtain ⟨step, k, rfl, hk, hblock⟩ := exists_block rank
  have hnext : step = 0 ∨ 2 ^ 52 ≤ k + 1 := by omega
  rw [Nat.add_assoc, unitsOfRank_block hk.le hblock, unitsOfRank_block hk hnext]
  exact Nat.mul_lt_mul_of_pos_right (Nat.lt_succ_self k) (Nat.two_pow_pos step)

/-- Different ranks are different magnitudes. -/
theorem unitsOfRank_injective : Function.Injective unitsOfRank :=
  unitsOfRank_strictMono.injective

/-- The rounded quotient on the grid lies in the block of the step or at its end. -/
theorem divNearestEven_gridStep (num : Nat) {den : Nat} (hden : 0 < den) :
    divNearestEven num (den * 2 ^ gridStep num den) ≤ 2 ^ 53 ∧
      (gridStep num den = 0 ∨
        2 ^ 52 ≤ divNearestEven num (den * 2 ^ gridStep num den)) := by
  have hgrid : 0 < den * 2 ^ gridStep num den := Nat.mul_pos hden (Nat.two_pow_pos _)
  constructor
  · exact divNearestEven_le hgrid (lt_gridStep num hden).le
  · exact (gridStep_le num hden).imp_right (le_divNearestEven hgrid)

/-- The magnitude that a quotient is rounded to. -/
theorem unitsOfRank_nearestRank (num : Nat) {den : Nat} (hden : 0 < den) :
    unitsOfRank (nearestRank num den) =
      divNearestEven num (den * 2 ^ gridStep num den) * 2 ^ gridStep num den := by
  obtain ⟨hle, hblock⟩ := divNearestEven_gridStep num hden
  rw [nearestRank_eq, unitsOfRank_block hle hblock]

/-- The magnitude that a quotient is rounded to is within half a step of it. -/
theorem unitsOfRank_nearestRank_bounds (num : Nat) {den : Nat} (hden : 0 < den) :
    2 * num ≤ 2 * (unitsOfRank (nearestRank num den) * den) + den * 2 ^ gridStep num den ∧
      2 * (unitsOfRank (nearestRank num den) * den) ≤
        2 * num + den * 2 ^ gridStep num den := by
  have hgrid : 0 < den * 2 ^ gridStep num den := Nat.mul_pos hden (Nat.two_pow_pos _)
  have hunits : unitsOfRank (nearestRank num den) * den =
      divNearestEven num (den * 2 ^ gridStep num den) * (den * 2 ^ gridStep num den) := by
    rw [unitsOfRank_nearestRank num hden]
    ring
  rw [hunits]
  exact divNearestEven_bounds num hgrid

/-- A quotient that is a multiple of its step is not changed by rounding. -/
theorem unitsOfRank_nearestRank_of_dvd {num den units : Nat} (hden : 0 < den)
    (hnum : num = units * den) (hdvd : 2 ^ gridStep num den ∣ units) :
    unitsOfRank (nearestRank num den) = units := by
  obtain ⟨k, hk⟩ := hdvd
  have hgrid : 0 < den * 2 ^ gridStep num den := Nat.mul_pos hden (Nat.two_pow_pos _)
  have hmul : num = k * (den * 2 ^ gridStep num den) := by
    calc num = 2 ^ gridStep num den * k * den := by rw [← hk]; exact hnum
      _ = k * (den * 2 ^ gridStep num den) := by ring
  have hround : divNearestEven num (den * 2 ^ gridStep num den) = k := by
    have hexact := divNearestEven_mul k hgrid
    rwa [← hmul] at hexact
  rw [unitsOfRank_nearestRank num hden, hround, hk, Nat.mul_comm]

end LineArithmetic.Binary64
