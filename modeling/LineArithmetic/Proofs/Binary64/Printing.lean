import LineArithmetic.Binary64.Printing
import LineArithmetic.Proofs.Binary64.Decimals
import LineArithmetic.Proofs.Digits

/-!
# The text of a number and the number

A finite number is written as digits with a point, or with a power of ten behind
them.  Laying out digits moves the point and puts zeros in front of them or behind
them, so what is laid out is the same decimal (`toList_write_positional`,
`toList_write_scientific`); and the decimal reads back.  `isPositional_magnitudeText`
and `isScientific_magnitudeText` put this together: both forms with the digits that
they consist of, and the number that a reader finds in them.
-/

namespace LineArithmetic.Binary64

open Text

/-! ## Laid out digits -/

section Layouts

variable {layout : Layout} {digits : List Char} {lead : Int}

/-- The positional form is the decimal, perhaps with further zeros at its end. -/
theorem toList_write_positional (hdigits : IsDigits digits) (hhead : digits.head? ≠ some '0')
    (h : layout.positionalFrom ≤ lead ∧ lead < layout.positionalBelow) :
    ∃ (whole fraction : List Char) (zeros : Nat), IsWhole whole ∧ IsDigits fraction ∧
      (layout.write digits lead).toList = whole ++ '.' :: fraction ∧
      digitsValue (whole ++ fraction) = digitsValue digits * 10 ^ zeros ∧
      (zeros : Int) - fraction.length = lead + 1 - digits.length := by
  rw [Layout.write, if_pos h]
  by_cases hneg : lead < 0
  · rw [if_pos hneg]
    refine ⟨['0'], List.replicate (-lead - 1).toNat '0' ++ digits, 0, isWhole_zero,
      hdigits.zeros_append _, ?_, ?_, ?_⟩
    · simp
    · have hzeros : ['0'] ++ (List.replicate (-lead - 1).toNat '0' ++ digits) =
          List.replicate ((-lead - 1).toNat + 1) '0' ++ digits := by
        rw [List.replicate_succ]
        rfl
      rw [hzeros, digitsValue_zeros_append, pow_zero, Nat.mul_one]
    · rw [List.length_append, List.length_replicate]
      omega
  · rw [if_neg hneg]
    obtain ⟨places, rfl⟩ := Int.eq_ofNat_of_zero_le (show 0 ≤ lead by omega)
    simp only [Int.toNat_natCast]
    by_cases hlong : places + 1 < digits.length
    · have htake : (digits.take (places + 1)).length = places + 1 := by
        rw [List.length_take]
        omega
      have hfraction : (digits.drop (places + 1)).isEmpty = false := by
        rw [List.isEmpty_eq_false_iff]
        exact (hdigits.drop hlong).ne_nil
      refine ⟨digits.take (places + 1), digits.drop (places + 1), 0,
        isWhole_of_head_ne (hdigits.take (by omega)) ?_, hdigits.drop hlong, ?_, ?_, ?_⟩
      · rwa [List.head?_take, if_neg (by omega)]
      · rw [htake, Nat.sub_self, List.replicate_zero, List.append_nil, hfraction]
        simp
      · rw [List.take_append_drop, pow_zero, Nat.mul_one]
      · rw [List.length_drop]
        omega
    · have htake : digits.take (places + 1) = digits := List.take_of_length_le (by omega)
      have hdrop : digits.drop (places + 1) = [] := List.drop_of_length_le (by omega)
      refine ⟨digits ++ List.replicate (places + 1 - digits.length) '0', ['0'],
        places + 1 - digits.length + 1, isWhole_of_head_ne (hdigits.append_zeros _) ?_,
        isWhole_zero.toIsDigits, ?_, ?_, ?_⟩
      · rw [List.head?_append]
        cases digits with
        | nil => exact absurd rfl hdigits.ne_nil
        | cons d ds => exact hhead
      · rw [htake, hdrop]
        simp
      · have hzeros : digits ++ List.replicate (places + 1 - digits.length) '0' ++ ['0'] =
            digits ++ List.replicate (places + 1 - digits.length + 1) '0' := by
          rw [List.replicate_succ', List.append_assoc]
        rw [hzeros, digitsValue_append_zeros]
      · rw [List.length_singleton]
        omega

/-- The scientific form is the decimal with a point behind its first digit. -/
theorem toList_write_scientific (digits : List Char)
    (h : ¬ (layout.positionalFrom ≤ lead ∧ lead < layout.positionalBelow)) :
    ∃ exponent, IsDigits exponent ∧ digitsValue exponent = lead.natAbs ∧
      (layout.write digits lead).toList = digits.take 1 ++
        (if digits.drop 1 = [] then [] else '.' :: digits.drop 1) ++
          'e' :: (if lead < 0 then '-' else '+') :: exponent := by
  refine ⟨List.replicate (layout.exponentDigits - (Nat.toDigits 10 lead.natAbs).length) '0' ++
    Nat.toDigits 10 lead.natAbs, (isDigits_toDigits _).zeros_append _, ?_, ?_⟩
  · rw [digitsValue_zeros_append, digitsValue_toDigits]
  · have hshort : digits.length ≤ 1 ↔ digits.drop 1 = [] := List.drop_eq_nil_iff.symm
    rw [Layout.write, if_neg h]
    simp only [String.toList_append, padded, String.toList_ofList, hshort]
    split <;> split <;> simp

end Layouts

/-! ## Texts that read back -/

/-- A magnitude as it is written with a point between digits: the digits are the
decimal of the magnitude. -/
def IsPositional (rank : Fin rankLimit) (text : List Char) : Prop :=
  ∃ whole fraction, IsWhole whole ∧ IsDigits fraction ∧ text = whole ++ '.' :: fraction ∧
    ∀ negative, ofDecimal negative (digitsValue (whole ++ fraction)) (-(fraction.length : Int)) =
      .finite negative rank

/-- A magnitude as it is written with a power of ten: digits and power are the
decimal of the magnitude. -/
def IsScientific (rank : Fin rankLimit) (text : List Char) : Prop :=
  ∃ (first fraction exponent : List Char) (down : Bool), IsWhole first ∧
    (fraction = [] ∨ IsDigits fraction) ∧ IsDigits exponent ∧
    text = first ++ (if fraction = [] then [] else '.' :: fraction) ++
      'e' :: (if down then '-' else '+') :: exponent ∧
    ∀ negative, ofDecimal negative (digitsValue (first ++ fraction))
      ((if down then -(digitsValue exponent : Int) else digitsValue exponent) -
        fraction.length) = .finite negative rank

theorem isPositional_zero {rank : Fin rankLimit} (h : rank.val = 0) :
    IsPositional rank ['0', '.', '0'] := by
  refine ⟨['0'], ['0'], isWhole_zero, isWhole_zero.toIsDigits, rfl, fun negative => ?_⟩
  have hvalue : digitsValue (['0'] ++ ['0']) = 0 := rfl
  rw [hvalue, ofDecimal, if_pos rfl, zero]
  exact congrArg (Binary64.finite negative) (Fin.ext h.symm)

section Decimals

variable {rank : Fin rankLimit} {d : Decimal} {layout : Layout} {digits : List Char} {lead : Int}

theorem isPositional_write (hrank : 0 < rank.val) (h : d.ReadsBack rank)
    (hdigits : digits = Nat.toDigits 10 d.coefficient)
    (hlead : lead = digits.length - 1 + d.exponent)
    (hrange : layout.positionalFrom ≤ lead ∧ lead < layout.positionalBelow) :
    IsPositional rank (layout.write digits lead).toList := by
  have hhead := head?_toDigits_ne (h.coefficient_pos hrank)
  have hall := isDigits_toDigits d.coefficient
  have hvalue := digitsValue_toDigits d.coefficient
  rw [← hdigits] at hhead hall hvalue
  obtain ⟨whole, fraction, zeros, hwhole, hfraction, htext, hsame, hexponent⟩ :=
    toList_write_positional hall hhead hrange
  refine ⟨whole, fraction, hwhole, hfraction, htext, fun negative => ?_⟩
  have hshift : (⟨d.coefficient * 10 ^ zeros, -(fraction.length : Int)⟩ : Decimal).ReadsBack
      rank := by
    rw [Decimal.readsBack_shift]
    have hsum : -(fraction.length : Int) + zeros = d.exponent := by omega
    rwa [hsum]
  rw [hsame, hvalue]
  exact ofDecimal_of_readsBack negative hshift

theorem isScientific_write (hrank : 0 < rank.val) (h : d.ReadsBack rank)
    (hdigits : digits = Nat.toDigits 10 d.coefficient)
    (hlead : lead = digits.length - 1 + d.exponent)
    (hrange : ¬ (layout.positionalFrom ≤ lead ∧ lead < layout.positionalBelow)) :
    IsScientific rank (layout.write digits lead).toList := by
  have hhead := head?_toDigits_ne (h.coefficient_pos hrank)
  have hall := isDigits_toDigits d.coefficient
  have hvalue := digitsValue_toDigits d.coefficient
  rw [← hdigits] at hhead hall hvalue
  obtain ⟨exponent, hexponent, hpower, htext⟩ := toList_write_scientific digits hrange
  refine ⟨digits.take 1, digits.drop 1, exponent, decide (lead < 0),
    isWhole_of_head_ne (hall.take Nat.one_pos) ?_, ?_, hexponent, ?_, fun negative => ?_⟩
  · rwa [List.head?_take, if_neg Nat.one_ne_zero]
  · by_cases hlong : 1 < digits.length
    · exact Or.inr (hall.drop hlong)
    · exact Or.inl (List.drop_of_length_le (by omega))
  · simpa only [decide_eq_true_eq] using htext
  · have hlength : 0 < digits.length := List.length_pos_iff.mpr hall.ne_nil
    have hsum : (if decide (lead < 0) = true then -(digitsValue exponent : Int)
        else digitsValue exponent) - ((digits.drop 1).length : Int) = d.exponent := by
      rw [hpower, List.length_drop]
      simp only [decide_eq_true_eq]
      split <;> omega
    rw [List.take_append_drop, hvalue, hsum]
    exact ofDecimal_of_readsBack negative h

end Decimals

/-- The power of ten that the first digit of a magnitude counts when it is written. -/
def leadingPlace (rank : Nat) : Int :=
  (Nat.toDigits 10 (shortest rank).coefficient).length - 1 + (shortest rank).exponent

/-- Whether a magnitude is written positionally. -/
def InPositionalRange (rank : Nat) : Prop :=
  rank = 0 ∨ Layout.plain.positionalFrom ≤ leadingPlace rank ∧
    leadingPlace rank < Layout.plain.positionalBelow

section Magnitudes

variable {rank : Fin rankLimit}

theorem isPositional_magnitudeText (h : InPositionalRange rank) :
    IsPositional rank (magnitudeText rank).toList := by
  unfold magnitudeText
  split
  · rename_i hzero
    have htext : "0.0".toList = ['0', '.', '0'] := by decide
    rw [htext]
    exact isPositional_zero hzero
  · rename_i hne
    exact isPositional_write (Nat.pos_of_ne_zero hne) (readsBack_shortest rank) rfl rfl
      (h.resolve_left hne)

theorem isScientific_magnitudeText (h : ¬ InPositionalRange rank) :
    IsScientific rank (magnitudeText rank).toList := by
  obtain ⟨hne, hrange⟩ := not_or.mp h
  rw [magnitudeText, if_neg hne]
  exact isScientific_write (Nat.pos_of_ne_zero hne) (readsBack_shortest rank) rfl rfl hrange

end Magnitudes

/-- However a magnitude is written, what is written is the decimal of the
magnitude. -/
theorem magnitudeText_cases (rank : Fin rankLimit) :
    IsPositional rank (magnitudeText rank).toList ∨
      IsScientific rank (magnitudeText rank).toList := by
  by_cases h : InPositionalRange rank
  · exact Or.inl (isPositional_magnitudeText h)
  · exact Or.inr (isScientific_magnitudeText h)

end LineArithmetic.Binary64
