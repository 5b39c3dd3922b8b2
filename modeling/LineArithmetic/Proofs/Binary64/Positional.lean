import LineArithmetic.Proofs.Binary64.Optimal
import LineArithmetic.Proofs.Binary64.Printing
import Mathlib.Tactic.Positivity

/-!
# Where the positional form starts and ends

The form that a magnitude is written in is chosen by the first digit of its shortest
decimal, not by the magnitude.  The two agree: rounding keeps the order of decimals
(`Decimal.ReadsBack.le`), and the powers of ten at both ends of the positional range are
the shortest decimals of their magnitudes (`le_leadingPlace_iff`).  So the magnitudes
written positionally are zero and those from `10 ^ (-4)` up to, not including, `10 ^ 16`
(`inPositionalRange_iff`).

The lower end is no magnitude of the format.  The one next to it lies above it, so it
makes no difference whether the bound is rounded before it is compared.
-/

namespace LineArithmetic.Binary64

section Places

variable {rank : Nat}

/-- Of two decimals that read back the greater one does so to a rank at least as
great.  Both are compared after multiplying with a power of ten. -/
theorem Decimal.ReadsBack.le {d d' : Decimal} {rank' : Nat} (h : d.ReadsBack rank)
    (h' : d'.ReadsBack rank')
    (hle : d.coefficient * 10 ^ (d.exponent.toNat + (-d'.exponent).toNat) ≤
      d'.coefficient * 10 ^ (d'.exponent.toNat + (-d.exponent).toNat)) : rank ≤ rank' := by
  have hten : ∀ n, 0 < 10 ^ n := fun n => Nat.pow_pos (by decide)
  rw [← (readsBack_iff d.coefficient d.exponent).mp h,
    ← (readsBack_iff d'.coefficient d'.exponent).mp h']
  refine nearestRank_mono (hten _) (hten _) ?_
  have hscaled := Nat.mul_le_mul_right unitsPerOne hle
  generalize unitsPerOne = unit at hscaled ⊢
  rw [pow_add, pow_add] at hscaled
  linarith

/-- The first digit of a shortest decimal says between which powers of ten it lies. -/
theorem shortest_bounds (hrank : 0 < rank) :
    ∃ places : Nat, leadingPlace rank = places + (shortest rank).exponent ∧
      10 ^ places ≤ (shortest rank).coefficient ∧
      (shortest rank).coefficient ≤ 10 ^ (places + 1) := by
  have hpos : 0 < (shortest rank).coefficient := (readsBack_shortest rank).coefficient_pos hrank
  have hdigits : 0 < (Nat.toDigits 10 (shortest rank).coefficient).length :=
    Nat.length_toDigits_pos
  unfold leadingPlace
  generalize (shortest rank).coefficient = c at *
  obtain ⟨places, hplaces⟩ := Nat.exists_eq_add_of_lt hdigits
  rw [Nat.zero_add] at hplaces
  refine ⟨places, by omega, ?_, ?_⟩
  · rcases Nat.eq_zero_or_pos places with rfl | hmore
    · exact hpos
    · have hlong := (Nat.length_toDigits_le_iff (n := c) (by decide : 1 < 10) hmore).not
      omega
  · have hshort := Nat.length_toDigits_le_iff (n := c) (by decide : 1 < 10) (Nat.succ_pos places)
    exact (hshort.mp hplaces.le).le

/-- If a power of ten is the shortest decimal of a magnitude, the first digits of the
magnitudes from there on count that power or a greater one. -/
theorem le_leadingPlace_iff {first : Nat} {k : Int} (hrank : 0 < rank)
    (hfirst : shortest first = ⟨1, k⟩) : k ≤ leadingPlace rank ↔ first ≤ rank := by
  have hpower : (⟨1, k⟩ : Decimal).ReadsBack first := hfirst ▸ readsBack_shortest first
  have hread := readsBack_shortest rank
  obtain ⟨places, hplace, hlow, hhigh⟩ := shortest_bounds hrank
  constructor
  · intro hle
    refine hpower.le hread ?_
    calc 1 * 10 ^ (k.toNat + (-(shortest rank).exponent).toNat)
        ≤ 10 ^ (places + ((shortest rank).exponent.toNat + (-k).toNat)) := by
          rw [Nat.one_mul]
          exact Nat.pow_le_pow_right (by decide) (by omega)
      _ = 10 ^ places * 10 ^ ((shortest rank).exponent.toNat + (-k).toNat) := pow_add _ _ _
      _ ≤ (shortest rank).coefficient * 10 ^ ((shortest rank).exponent.toNat + (-k).toNat) :=
          Nat.mul_le_mul_right _ hlow
  · intro hle
    by_contra hlt
    have hge : rank ≤ first := by
      refine hread.le hpower ?_
      have hexponents : places + 1 + ((shortest rank).exponent.toNat + (-k).toNat) ≤
          k.toNat + (-(shortest rank).exponent).toNat := by
        clear hlow hhigh
        omega
      calc (shortest rank).coefficient * 10 ^ ((shortest rank).exponent.toNat + (-k).toNat)
          ≤ 10 ^ (places + 1) * 10 ^ ((shortest rank).exponent.toNat + (-k).toNat) :=
            Nat.mul_le_mul_right _ hhigh
        _ = 10 ^ (places + 1 + ((shortest rank).exponent.toNat + (-k).toNat)) :=
            (pow_add _ _ _).symm
        _ ≤ 1 * 10 ^ (k.toNat + (-(shortest rank).exponent).toNat) := by
            rw [Nat.one_mul]
            exact Nat.pow_le_pow_right (by decide) hexponents
    obtain rfl : rank = first := Nat.le_antisymm hge hle
    have hone : (Nat.toDigits 10 1).length = 1 := by decide
    have hsame : leadingPlace rank = k := by
      rw [leadingPlace, hfirst, hone]
      show (1 : Nat) - 1 + k = k
      omega
    exact hlt hsame.ge

/-- The first digit counts at least `10 ^ (-4)` from the magnitude next to it on. -/
theorem le_leadingPlace_neg_four (hrank : 0 < rank) :
    -4 ≤ leadingPlace rank ↔ unitsPerOne ≤ unitsOfRank rank * 10 ^ 4 := by
  have hfirst : shortest (nearestRank unitsPerOne (10 ^ 4)) = ⟨1, -4⟩ := by decide +kernel
  have hlow : unitsPerOne ≤ unitsOfRank (nearestRank unitsPerOne (10 ^ 4)) * 10 ^ 4 := by
    decide +kernel
  have hhigh : unitsOfRank (nearestRank unitsPerOne (10 ^ 4) - 1) * 10 ^ 4 < unitsPerOne := by
    decide +kernel
  rw [le_leadingPlace_iff hrank hfirst]
  generalize nearestRank unitsPerOne (10 ^ 4) = first at hlow hhigh ⊢
  constructor
  · intro hle
    exact hlow.trans (Nat.mul_le_mul_right _ (unitsOfRank_strictMono.monotone hle))
  · intro hle
    by_contra hlt
    have hbelow := unitsOfRank_strictMono.monotone (show rank ≤ first - 1 by omega)
    have hmul := Nat.mul_le_mul_right (10 ^ 4) hbelow
    omega

/-- The upper end is a magnitude of the format. -/
theorem leadingPlace_lt_sixteen (hrank : 0 < rank) :
    leadingPlace rank < 16 ↔ unitsOfRank rank < 10 ^ 16 * unitsPerOne := by
  have hfirst : shortest (nearestRank (10 ^ 16 * unitsPerOne) 1) = ⟨1, 16⟩ := by decide +kernel
  have hexact : unitsOfRank (nearestRank (10 ^ 16 * unitsPerOne) 1) = 10 ^ 16 * unitsPerOne := by
    decide +kernel
  rw [← hexact, unitsOfRank_strictMono.lt_iff_lt, ← not_le, le_leadingPlace_iff hrank hfirst,
    not_le]

end Places

/-- The magnitudes that are written positionally. -/
theorem inPositionalRange_iff (rank : Fin rankLimit) :
    InPositionalRange rank ↔ rank.val = 0 ∨
      1 / 10 ^ 4 ≤ (finite false rank).toRat ∧ (finite false rank).toRat < 10 ^ 16 := by
  have hunit : (0 : ℚ) < unitsPerOne := Nat.cast_pos.mpr unitsPerOne_pos
  have hvalue : (finite false rank).toRat = unitsOfRank rank / unitsPerOne := rfl
  have hlow : (1 / 10 ^ 4 : ℚ) ≤ unitsOfRank rank / unitsPerOne ↔
      unitsPerOne ≤ unitsOfRank rank * 10 ^ 4 := by
    rw [div_le_div_iff₀ (by positivity) hunit, one_mul]
    exact_mod_cast Iff.rfl
  have hhigh : (unitsOfRank rank / unitsPerOne : ℚ) < 10 ^ 16 ↔
      unitsOfRank rank < 10 ^ 16 * unitsPerOne := by
    rw [div_lt_iff₀ hunit]
    exact_mod_cast Iff.rfl
  unfold InPositionalRange
  by_cases hzero : rank.val = 0
  · exact iff_of_true (Or.inl hzero) (Or.inl hzero)
  · have hrank : 0 < rank.val := Nat.pos_of_ne_zero hzero
    rw [hvalue, hlow, hhigh, ← le_leadingPlace_neg_four hrank, ← leadingPlace_lt_sixteen hrank]
    rfl

end LineArithmetic.Binary64
