import LineArithmetic.Text.Numeral
import Mathlib.Algebra.Order.Ring.Nat

/-!
# Digits and their value

Decimal digits as they stand in texts of numbers, and the number that they
denote.  The digits of a number denote it again (`digitsValue_toDigits`), they
start with a zero only if they are that one zero (`isWhole_toDigits`), and zeros in
front of digits or behind them do what they should.  With a sign in front of them they
are the text of an integer, which is determined by it (`toString_int_injective`).
-/

namespace LineArithmetic.Text

/-- One or more decimal digits. -/
structure IsDigits (cs : List Char) : Prop where
  ne_nil : cs ≠ []
  isDigit : ∀ c ∈ cs, c.isDigit = true

/-- Digits in front of a point: a zero alone, or digits that do not start with
one. -/
structure IsWhole (cs : List Char) : Prop extends IsDigits cs where
  zero_alone : cs.head? = some '0' → cs = ['0']

/-! ## Values -/

section Values

variable {cs ds : List Char}

theorem digitsValue_eq_ofDigitChars (cs : List Char) :
    digitsValue cs = Nat.ofDigitChars 10 cs 0 := by
  simp only [digitsValue, Nat.ofDigitChars_eq_foldl, Nat.mul_comm]

theorem digitsValue_append (cs ds : List Char) :
    digitsValue (cs ++ ds) = digitsValue cs * 10 ^ ds.length + digitsValue ds := by
  simp only [digitsValue_eq_ofDigitChars, Nat.ofDigitChars_append]
  rw [Nat.ofDigitChars_eq_ofDigitChars_zero, Nat.mul_comm]

theorem digitsValue_replicate_zero (n : Nat) : digitsValue (List.replicate n '0') = 0 := by
  rw [digitsValue_eq_ofDigitChars, Nat.ofDigitChars_replicate_zero, Nat.mul_zero]

theorem digitsValue_zeros_append (n : Nat) (cs : List Char) :
    digitsValue (List.replicate n '0' ++ cs) = digitsValue cs := by
  rw [digitsValue_append, digitsValue_replicate_zero, Nat.zero_mul, Nat.zero_add]

theorem digitsValue_append_zeros (cs : List Char) (n : Nat) :
    digitsValue (cs ++ List.replicate n '0') = digitsValue cs * 10 ^ n := by
  rw [digitsValue_append, digitsValue_replicate_zero, List.length_replicate, Nat.add_zero]

end Values

/-! ## Lists of digits -/

section Lists

variable {cs ds : List Char}

theorem IsDigits.zeros_append (h : IsDigits cs) (n : Nat) :
    IsDigits (List.replicate n '0' ++ cs) := by
  refine ⟨List.append_ne_nil_of_right_ne_nil _ h.ne_nil, List.forall_mem_append.mpr ⟨?_, h.isDigit⟩⟩
  intro c hc
  rw [List.eq_of_mem_replicate hc]
  rfl

theorem IsDigits.append_zeros (h : IsDigits cs) (n : Nat) :
    IsDigits (cs ++ List.replicate n '0') := by
  refine ⟨List.append_ne_nil_of_left_ne_nil h.ne_nil _, List.forall_mem_append.mpr ⟨h.isDigit, ?_⟩⟩
  intro c hc
  rw [List.eq_of_mem_replicate hc]
  rfl

theorem IsDigits.take (h : IsDigits cs) {n : Nat} (hn : 0 < n) : IsDigits (cs.take n) := by
  refine ⟨?_, fun c hc => h.isDigit c (List.mem_of_mem_take hc)⟩
  rw [Ne, List.take_eq_nil_iff]
  rintro (hzero | hnil)
  · omega
  · exact h.ne_nil hnil

theorem IsDigits.drop (h : IsDigits cs) {n : Nat} (hn : n < cs.length) :
    IsDigits (cs.drop n) := by
  refine ⟨?_, fun c hc => h.isDigit c (List.mem_of_mem_drop hc)⟩
  rw [Ne, List.drop_eq_nil_iff]
  omega

theorem isWhole_zero : IsWhole ['0'] :=
  ⟨⟨nofun, by simp⟩, fun _ => rfl⟩

theorem isWhole_of_head_ne (h : IsDigits cs) (hhead : cs.head? ≠ some '0') : IsWhole cs :=
  ⟨h, fun hzero => absurd hzero hhead⟩

/-- Digits are taken up to the first other character. -/
theorem IsDigits.takeWhile_append (h : IsDigits cs)
    (hds : ∀ d ∈ ds.head?, d.isDigit = false) : (cs ++ ds).takeWhile Char.isDigit = cs := by
  rw [List.takeWhile_append_of_pos h.isDigit]
  cases ds with
  | nil => simp
  | cons d ds => rw [List.takeWhile_cons_of_neg (by simp [hds d rfl]), List.append_nil]

theorem IsDigits.dropWhile_append (h : IsDigits cs)
    (hds : ∀ d ∈ ds.head?, d.isDigit = false) : (cs ++ ds).dropWhile Char.isDigit = ds := by
  rw [List.dropWhile_append_of_pos h.isDigit]
  cases ds with
  | nil => rfl
  | cons d ds => exact List.dropWhile_cons_of_neg (by simp [hds d rfl])

/-- Digits start with a digit. -/
theorem IsDigits.exists_cons (h : IsDigits cs) :
    ∃ d more, cs = d :: more ∧ d.isDigit = true := by
  obtain ⟨d, more, rfl⟩ := List.exists_cons_of_ne_nil h.ne_nil
  exact ⟨d, more, rfl, h.isDigit d List.mem_cons_self⟩

/-- A number below a power of ten has no more digits than the power has zeros. -/
theorem IsWhole.length_le (h : IsWhole cs) {n : Nat} (hn : 0 < n)
    (hvalue : digitsValue cs < 10 ^ n) : cs.length ≤ n := by
  obtain ⟨d, ds, rfl, hd⟩ := h.exists_cons
  by_cases hzero : d = '0'
  · rw [h.zero_alone (by rw [hzero]; rfl)]
    exact hn
  · have hfirst : 0 < digitsValue [d] := by
      have hbounds := Char.isDigit_iff_toNat.mp hd
      have hne : d.toNat ≠ '0'.toNat := fun heq => hzero (Char.toNat_inj.mp heq)
      show 0 < 0 * 10 + (d.toNat - '0'.toNat)
      omega
    have hpow : 10 ^ ds.length < 10 ^ n := by
      calc 10 ^ ds.length ≤ digitsValue [d] * 10 ^ ds.length := Nat.le_mul_of_pos_left _ hfirst
        _ ≤ digitsValue [d] * 10 ^ ds.length + digitsValue ds := Nat.le_add_right _ _
        _ = digitsValue (d :: ds) := (digitsValue_append [d] ds).symm
        _ < 10 ^ n := hvalue
    exact (Nat.pow_lt_pow_iff_right (by decide)).mp hpow

end Lists

/-! ## The digits of a number -/

theorem isDigits_toDigits (n : Nat) : IsDigits (Nat.toDigits 10 n) :=
  ⟨Nat.toDigits_ne_nil, fun _ hc => Nat.isDigit_of_mem_toDigits (by decide) (by decide) hc⟩

theorem digitsValue_toDigits (n : Nat) : digitsValue (Nat.toDigits 10 n) = n := by
  rw [digitsValue_eq_ofDigitChars, Nat.ofDigitChars_ten_toDigits]

/-- The digits of a positive number do not start with a zero. -/
theorem head?_toDigits_ne {n : Nat} (h : 0 < n) : (Nat.toDigits 10 n).head? ≠ some '0' := by
  induction n using Nat.strongRecOn with
  | ind n ih =>
    by_cases hsmall : n < 10
    · rw [Nat.toDigits_of_lt_base hsmall, List.head?_cons, Ne, Option.some.injEq,
        Nat.digitChar_eq_zero]
      omega
    · have hfirst := ih (n / 10) (by omega) (by omega)
      rw [Nat.toDigits_of_base_le (by decide) (by omega)]
      cases hdigits : Nat.toDigits 10 (n / 10) with
      | nil => exact absurd hdigits Nat.toDigits_ne_nil
      | cons d ds => rwa [hdigits] at hfirst

/-- The digits of a number are those of an integral part. -/
theorem isWhole_toDigits (n : Nat) : IsWhole (Nat.toDigits 10 n) := by
  rcases Nat.eq_zero_or_pos n with rfl | h
  · rw [Nat.toDigits_zero]
    exact isWhole_zero
  · exact isWhole_of_head_ne (isDigits_toDigits n) (head?_toDigits_ne h)

/-! ## The text of an integer -/

theorem toList_toString_ofNat (n : Nat) : (toString (Int.ofNat n)).toList = Nat.toDigits 10 n :=
  Nat.toList_repr

theorem toList_toString_negSucc (n : Nat) :
    (toString (Int.negSucc n)).toList = '-' :: Nat.toDigits 10 (n + 1) := by
  show ("-" ++ Nat.repr (n + 1)).toList = _
  rw [String.toList_append, Nat.toList_repr]
  rfl

theorem toDigits_injective : Function.Injective (Nat.toDigits 10) :=
  Function.LeftInverse.injective digitsValue_toDigits

/-- Digits are no sign with digits behind it. -/
theorem toDigits_ne_minus_cons (n : Nat) (cs : List Char) : Nat.toDigits 10 n ≠ '-' :: cs := by
  intro h
  have hminus : '-' ∈ Nat.toDigits 10 n := h ▸ List.mem_cons_self
  exact absurd ((isDigits_toDigits n).isDigit _ hminus) (by decide)

/-- Different integers have different texts. -/
theorem toString_int_injective : Function.Injective (toString : Int → String) := by
  intro m n h
  have htexts := congrArg String.toList h
  cases m with
  | ofNat m =>
    rw [toList_toString_ofNat] at htexts
    cases n with
    | ofNat n =>
      rw [toList_toString_ofNat] at htexts
      exact congrArg Int.ofNat (toDigits_injective htexts)
    | negSucc n =>
      rw [toList_toString_negSucc] at htexts
      exact absurd htexts (toDigits_ne_minus_cons m _)
  | negSucc m =>
    rw [toList_toString_negSucc] at htexts
    cases n with
    | ofNat n =>
      rw [toList_toString_ofNat] at htexts
      exact absurd htexts.symm (toDigits_ne_minus_cons n _)
    | negSucc n =>
      rw [toList_toString_negSucc] at htexts
      have hsucc := toDigits_injective (List.cons.inj htexts).2
      exact congrArg Int.negSucc (Nat.succ.inj hsucc)

end LineArithmetic.Text
