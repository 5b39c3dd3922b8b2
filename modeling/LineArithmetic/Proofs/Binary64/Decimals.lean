import LineArithmetic.Binary64.Shortest
import LineArithmetic.Proofs.Binary64.Integers

/-!
# Decimals that read back

A decimal reads back to a rank if rounding takes it there.  Rounding depends on
nothing but the exact quotient (`nearestRank_congr`), so zeros can be moved
between the coefficient and the exponent of a decimal (`readsBack_shift`).

The decimal that a magnitude is written with reads back (`readsBack_shortest`),
whichever way it was found.  Reading a decimal is rounding it, since the
shortcuts of the reader for exponents far outside the range give what rounding
gives (`ofDecimal_eq_ofQuotient`).  So reading a decimal that reads back gives
the number again (`ofDecimal_of_readsBack`).
-/

namespace LineArithmetic.Binary64

/-! ## Equal quotients -/

theorem unitsPerOne_eq : ∃ e, e = 1074 ∧ unitsPerOne = 2 ^ e := by
  refine ⟨1074, rfl, ?_⟩
  unfold unitsPerOne
  generalize 1074 = e
  exact Nat.pow_eq

section Quotients

variable {num den num' den' k : Nat}

theorem divNearestEven_mul_mul (hk : 0 < k) (num den : Nat) :
    divNearestEven (k * num) (k * den) = divNearestEven num den := by
  have hlt : 2 * (k * (num % den)) < k * den ↔ 2 * (num % den) < den := by
    rw [Nat.mul_left_comm, Nat.mul_lt_mul_left hk]
  have heq : 2 * (k * (num % den)) = k * den ↔ 2 * (num % den) = den := by
    rw [Nat.mul_left_comm, Nat.mul_right_inj hk.ne']
  unfold divNearestEven
  simp only [Nat.mul_div_mul_left _ _ hk, Nat.mul_mod_mul_left, hlt, heq]

theorem nearestRank_mul_mul (hk : 0 < k) (num den : Nat) :
    nearestRank (k * num) (k * den) = nearestRank num den := by
  rw [nearestRank_eq, nearestRank_eq, gridStep, gridStep, Nat.mul_div_mul_left _ _ hk,
    Nat.mul_assoc, divNearestEven_mul_mul hk]

/-- Equal quotients are rounded to the same rank. -/
theorem nearestRank_congr (hden : 0 < den) (hden' : 0 < den') (h : num * den' = num' * den) :
    nearestRank num den = nearestRank num' den' := by
  rw [← nearestRank_mul_mul hden' num den, ← nearestRank_mul_mul hden num' den',
    Nat.mul_comm den' num, h, Nat.mul_comm num' den, Nat.mul_comm den' den]

/-- A magnitude is rounded to its own rank. -/
theorem nearestRank_unitsOfRank (rank : Nat) : nearestRank (unitsOfRank rank) 1 = rank := by
  obtain ⟨step, k, hrank, hk, hblock⟩ := exists_block rank
  have hunits : unitsOfRank rank = k * 2 ^ step := by rw [hrank, unitsOfRank_block hk.le hblock]
  have hstep : gridStep (k * 2 ^ step) 1 ≤ step := by
    rcases gridStep_le (k * 2 ^ step) Nat.one_pos with hzero | hle
    · omega
    · rw [Nat.one_mul, ← pow_add] at hle
      have hlt : 2 ^ (52 + gridStep (k * 2 ^ step) 1) < 2 ^ (53 + step) := by
        calc 2 ^ (52 + gridStep (k * 2 ^ step) 1) ≤ k * 2 ^ step := hle
          _ < 2 ^ 53 * 2 ^ step := Nat.mul_lt_mul_of_pos_right hk (Nat.two_pow_pos step)
          _ = 2 ^ (53 + step) := (pow_add 2 53 step).symm
      have hpow := (Nat.pow_lt_pow_iff_right (by decide)).mp hlt
      omega
  apply unitsOfRank_injective
  rw [hunits]
  refine unitsOfRank_nearestRank_of_dvd Nat.one_pos (Nat.mul_one _).symm ?_
  exact Nat.dvd_mul_left_of_dvd (Nat.pow_dvd_pow 2 hstep) k

theorem nearestRank_of_lt (h : 2 * num < den) : nearestRank num den = 0 := by
  have hdiv : num / den = 0 := Nat.div_eq_of_lt (by omega)
  have hmod : num % den = num := Nat.mod_eq_of_lt (by omega)
  have hround : divNearestEven num den = 0 := by
    rw [divNearestEven, hmod, if_pos (Or.inl h), hdiv]
  rw [nearestRank_eq, gridStep, hdiv, Nat.log2_zero, Nat.zero_sub, Nat.zero_mul, Nat.pow_zero,
    Nat.mul_one, hround]

/-- A quotient far beyond the finite range is rounded to a rank beyond it. -/
theorem le_nearestRank (step : Nat) (h : 2 ^ (52 + step) ≤ num) :
    step * 2 ^ 52 ≤ nearestRank num 1 := by
  have hlog : 52 + step ≤ num.log2 := by
    rw [Nat.le_log2 (by have := Nat.two_pow_pos (52 + step); omega)]
    exact h
  have hstep : step ≤ gridStep num 1 := by
    rw [gridStep, Nat.div_one]
    omega
  rw [nearestRank_eq]
  exact (Nat.mul_le_mul_right _ hstep).trans (Nat.le_add_right _ _)

end Quotients

/-! ## Decimals -/

section Decimals

variable {rank : Nat} {d : Decimal}

theorem Decimal.readsBack_iff (c : Nat) (e : Int) :
    (⟨c, e⟩ : Decimal).ReadsBack rank ↔
      nearestRank (c * 10 ^ e.toNat * unitsPerOne) (10 ^ (-e).toNat) = rank := Iff.rfl

/-- Zeros at the end of the coefficient can be put into the exponent. -/
theorem Decimal.readsBack_shift (c k : Nat) (e : Int) :
    (⟨c * 10 ^ k, e⟩ : Decimal).ReadsBack rank ↔ (⟨c, e + k⟩ : Decimal).ReadsBack rank := by
  have hpow : 10 ^ k * 10 ^ e.toNat * 10 ^ (-(e + k)).toNat =
      10 ^ (e + k).toNat * 10 ^ (-e).toNat := by
    rw [← pow_add, ← pow_add, ← pow_add]
    congr 1
    omega
  have hten : ∀ n, 0 < 10 ^ n := fun n => Nat.pow_pos (by decide)
  rw [readsBack_iff, readsBack_iff, nearestRank_congr (hten _) (hten (-(e + k)).toNat)]
  generalize unitsPerOne = unit
  calc c * 10 ^ k * 10 ^ e.toNat * unit * 10 ^ (-(e + k)).toNat
      = c * unit * (10 ^ k * 10 ^ e.toNat * 10 ^ (-(e + k)).toNat) := by ring
    _ = c * 10 ^ (e + k).toNat * unit * 10 ^ (-e).toNat := by
        rw [hpow]
        ring

theorem Decimal.ReadsBack.trim (h : d.ReadsBack rank) (fuel : Nat) :
    (d.trim fuel).ReadsBack rank := by
  induction fuel generalizing d with
  | zero => exact h
  | succ fuel ih =>
    rw [Decimal.trim]
    split
    · rename_i hzero
      apply ih
      rw [← Nat.cast_one, ← readsBack_shift, pow_one, Nat.div_mul_cancel]
      · exact h
      · exact Nat.dvd_of_mod_eq_zero hzero.2
    · exact h

theorem readsBack_candidate {length : Nat} (h : candidate rank length = some d) :
    d.ReadsBack rank := by
  unfold candidate at h
  dsimp only at h
  split at h
  · rename_i hbelow
    split at h
    · rename_i habove
      rw [← Option.some.inj h]
      -- the nearest decimal is one of the two neighbours
      unfold divNearestEven
      dsimp only
      split
      · exact hbelow
      · exact habove
    · rw [← Option.some.inj h]
      exact hbelow
  · split at h
    · rename_i habove
      rw [← Option.some.inj h]
      exact habove
    · cases h

theorem readsBack_exactDecimal (rank : Nat) : (exactDecimal rank).ReadsBack rank := by
  obtain ⟨e, he, hunit⟩ := unitsPerOne_eq
  have hexact : exactDecimal rank = ⟨unitsOfRank rank * 5 ^ e, -(e : Int)⟩ := by
    have hexponent : (-1074 : Int) = -(e : Int) := by omega
    have hpower : Nat.pow 5 1074 = 5 ^ e := by rw [← he, Nat.pow_eq]
    rw [exactDecimal, hexponent, hpower]
  rw [hexact, Decimal.readsBack_iff, hunit, Int.toNat_neg_natCast, Int.neg_neg, Int.toNat_natCast,
    nearestRank_congr (Nat.pow_pos (by decide)) Nat.one_pos, nearestRank_unitsOfRank]
  calc unitsOfRank rank * 5 ^ e * 10 ^ 0 * 2 ^ e * 1 = unitsOfRank rank * (5 ^ e * 2 ^ e) := by ring
    _ = unitsOfRank rank * 10 ^ e := by rw [← Nat.mul_pow]

/-- The decimal that a magnitude is written with is rounded to the magnitude. -/
theorem readsBack_shortest (rank : Nat) : (shortest rank).ReadsBack rank := by
  unfold shortest
  apply Decimal.ReadsBack.trim
  cases hfound : (List.range 17).findSome? fun n => candidate rank (n + 1) with
  | none => exact readsBack_exactDecimal rank
  | some d =>
    obtain ⟨n, -, hd⟩ := List.exists_of_findSome?_eq_some hfound
    exact readsBack_candidate hd

theorem Decimal.ReadsBack.coefficient_pos (h : d.ReadsBack rank) (hrank : 0 < rank) :
    0 < d.coefficient := by
  obtain ⟨c, e⟩ := d
  rw [readsBack_iff] at h
  rcases Nat.eq_zero_or_pos c with rfl | hc
  · rw [Nat.zero_mul, Nat.zero_mul, nearestRank_of_lt (Nat.pow_pos (by decide))] at h
    omega
  · exact hc

theorem two_pow_le_ten_pow (n : Nat) : 2 ^ (3 * n) ≤ 10 ^ n := by
  rw [pow_mul]
  exact Nat.pow_le_pow_left (by decide) n

/-- A decimal with a great exponent is beyond the finite range. -/
theorem Decimal.ReadsBack.exponent_le (h : d.ReadsBack rank) (hc : 0 < d.coefficient)
    (hfinite : rank < rankLimit) : d.exponent ≤ 400 := by
  by_contra hlt
  obtain ⟨e, he, hunit⟩ := unitsPerOne_eq
  have hround : nearestRank (d.coefficient * 10 ^ d.exponent.toNat * 2 ^ e) 1 = rank := by
    have hnegative : (-d.exponent).toNat = 0 := by omega
    have hround := (readsBack_iff d.coefficient d.exponent).mp h
    rwa [hnegative, pow_zero, hunit] at hround
  generalize hplaces : d.exponent.toNat = places at hround
  have hlarge : 2 ^ (52 + (3 * places + e - 52)) ≤ d.coefficient * 10 ^ places * 2 ^ e := by
    have hexponent : 52 + (3 * places + e - 52) = 3 * places + e := by omega
    calc 2 ^ (52 + (3 * places + e - 52)) = 2 ^ (3 * places) * 2 ^ e := by
          rw [hexponent, pow_add]
      _ ≤ 10 ^ places * 2 ^ e := Nat.mul_le_mul_right _ (two_pow_le_ten_pow places)
      _ ≤ d.coefficient * 10 ^ places * 2 ^ e :=
          Nat.mul_le_mul_right _ (Nat.le_mul_of_pos_left _ hc)
  have hrank := le_nearestRank _ hlarge
  rw [hround] at hrank
  rw [rankLimit, Nat.pow_eq] at hfinite
  omega

/-- A decimal with a small exponent is nearer to zero than to any magnitude. -/
theorem Decimal.ReadsBack.le_exponent (h : d.ReadsBack rank) (hrank : 0 < rank) :
    -(400 + d.coefficient.log2 : Int) ≤ d.exponent := by
  by_contra hlt
  obtain ⟨e, he, hunit⟩ := unitsPerOne_eq
  have hround : nearestRank (d.coefficient * 2 ^ e) (10 ^ (-d.exponent).toNat) = rank := by
    have hpositive : d.exponent.toNat = 0 := by omega
    have hround := (readsBack_iff d.coefficient d.exponent).mp h
    rwa [hpositive, pow_zero, Nat.mul_one, hunit] at hround
  generalize hplaces : (-d.exponent).toNat = places at hround
  have hsmall : 2 * (d.coefficient * 2 ^ e) < 10 ^ places := by
    calc 2 * (d.coefficient * 2 ^ e) = d.coefficient * 2 ^ (e + 1) := by ring
      _ < 2 ^ (d.coefficient.log2 + 1) * 2 ^ (e + 1) :=
          Nat.mul_lt_mul_of_pos_right Nat.lt_log2_self (Nat.two_pow_pos _)
      _ = 2 ^ (d.coefficient.log2 + 1 + (e + 1)) := (pow_add _ _ _).symm
      _ ≤ 2 ^ (3 * places) := Nat.pow_le_pow_right (by decide) (by omega)
      _ ≤ 10 ^ places := two_pow_le_ten_pow places
  rw [nearestRank_of_lt hsmall] at hround
  omega

/-- The shortcuts of the reader are taken only where rounding gives the same. -/
theorem ofDecimal_eq_ofQuotient (negative : Bool) (c : Nat) (e : Int) :
    ofDecimal negative c e = ofQuotient negative (c * 10 ^ e.toNat) (10 ^ (-e).toNat) := by
  have hten : 0 < 10 ^ (-e).toNat := Nat.pow_pos (by decide)
  have hback : (⟨c, e⟩ : Decimal).ReadsBack
      (nearestRank (c * 10 ^ e.toNat * unitsPerOne) (10 ^ (-e).toNat)) := rfl
  unfold ofDecimal
  split
  · rename_i hzero
    rw [hzero, ofQuotient, Nat.zero_mul, Nat.zero_mul, ofUnits_zero negative hten]
  · rename_i hne
    split
    · rename_i hlarge
      have hbeyond :
          ¬ nearestRank (c * 10 ^ e.toNat * unitsPerOne) (10 ^ (-e).toNat) < rankLimit := by
        intro hfinite
        have hle := hback.exponent_le (Nat.pos_of_ne_zero hne) hfinite
        exact absurd hle (not_le.mpr hlarge)
      rw [ofQuotient, ofUnits, dif_neg hbeyond]
    · split
      · rename_i hsmall
        have hrank : nearestRank (c * 10 ^ e.toNat * unitsPerOne) (10 ^ (-e).toNat) = 0 := by
          by_contra hrank
          have hle := hback.le_exponent (Nat.pos_of_ne_zero hrank)
          exact absurd hle (not_le.mpr hsmall)
        simp only [ofQuotient, ofUnits, zero, hrank]
        rfl
      · rfl

/-- Reading a decimal that reads back gives the number. -/
theorem ofDecimal_of_readsBack (negative : Bool) {rank : Fin rankLimit}
    (h : d.ReadsBack rank) :
    ofDecimal negative d.coefficient d.exponent = .finite negative rank := by
  have hround : nearestRank (d.coefficient * 10 ^ d.exponent.toNat * unitsPerOne)
      (10 ^ (-d.exponent).toNat) = rank.val := h
  rw [ofDecimal_eq_ofQuotient, ofQuotient, ofUnits]
  simp only [hround, rank.isLt, dite_true]

end Decimals

end LineArithmetic.Binary64
