import LineArithmetic.Json.Reading
import LineArithmetic.Proofs.Json.Grammar
import LineArithmetic.Proofs.Literal

/-!
# Reading numbers

A number ends where the text stops continuing it, so what is read depends on what
follows.  After a value stands a blank, a comma, a closing bracket or nothing
(`EndsValue`), and none of these continues a number.  The reader first cuts a number
into its parts (`wholePart_append`, `fractionPart_append`, `exponentPart_append`) and
then has them read as an integer or as the decimal that the grammar means
(`number_int`, `number_float`).
-/

namespace LineArithmetic.Json

open Text

/-- What may follow a value: a blank, a comma, a closing bracket or nothing. -/
def EndsValue (rest : List Char) : Prop :=
  ∀ c ∈ rest.head?, isSpace c = true ∨ c = ',' ∨ c = ']' ∨ c = '}'

section Parts

variable {whole digits fraction exponent rest : List Char} {power : Int}

theorem EndsValue.not_number (h : EndsValue rest) :
    ∀ c ∈ rest.head?, c.isDigit = false ∧ c ≠ '.' ∧ c ≠ 'e' ∧ c ≠ 'E' := by
  intro c hc
  rcases h c hc with hspace | rfl | rfl | rfl
  · simp only [isSpace, Bool.or_eq_true, beq_iff_eq] at hspace
    rcases hspace with ((rfl | rfl) | rfl) | rfl <;> decide
  all_goals decide

/-- A power of ten does not continue the digits in front of it. -/
theorem SpellsExponent.head_append (h : SpellsExponent power exponent) (hrest : EndsValue rest) :
    ∀ c ∈ (exponent ++ rest).head?, c.isDigit = false ∧ c ≠ '.' := by
  have hletter : ∀ e : Char, e = 'e' ∨ e = 'E' → e.isDigit = false ∧ e ≠ '.' := by
    rintro e (rfl | rfl) <;> decide
  cases h with
  | none => exact fun c hc => ⟨(hrest.not_number c hc).1, (hrest.not_number c hc).2.1⟩
  | up he _ _ | down he _ =>
    rintro c ⟨⟩
    exact hletter _ he

/-- A fraction does not continue the digits in front of it. -/
theorem SpellsFraction.head_append (h : SpellsFraction digits fraction)
    (hrest : ∀ c ∈ rest.head?, c.isDigit = false) :
    ∀ c ∈ (fraction ++ rest).head?, c.isDigit = false := by
  cases h with
  | none => exact hrest
  | digits _ =>
    rintro c ⟨⟩
    rfl

/-! ## Cutting a number -/

theorem wholePart_append (h : IsWhole whole) (hrest : ∀ c ∈ rest.head?, c.isDigit = false) :
    wholePart (whole ++ rest) = whole := by
  unfold wholePart
  split
  · rename_i more heq
    have hhead : whole.head? = some '0' := by
      obtain ⟨d, ds, rfl, -⟩ := h.exists_cons
      rw [List.cons_append] at heq
      rw [(List.cons.inj heq).1]
      rfl
    exact (h.zero_alone hhead).symm
  · exact h.takeWhile_append hrest

theorem fractionPart_append (h : SpellsFraction digits fraction)
    (hrest : ∀ c ∈ rest.head?, c.isDigit = false ∧ c ≠ '.') :
    fractionPart (fraction ++ rest) = fraction := by
  cases h with
  | none =>
    unfold fractionPart
    split
    · rename_i heq
      exact absurd rfl (hrest '.' (by rw [← List.nil_append rest, heq]; rfl)).2
    · rfl
  | digits h =>
    have htake := h.takeWhile_append fun c hc => (hrest c hc).1
    simp only [List.cons_append, fractionPart, htake, List.isEmpty_eq_false_iff.mpr h.ne_nil,
      Bool.false_eq_true, if_false]

/-- A power of ten with any sign. -/
theorem exponentPart_signed {e : Char} {sign : List Char} (he : e = 'e' ∨ e = 'E')
    (hsign : sign = [] ∨ sign = ['+'] ∨ sign = ['-']) (h : IsDigits digits)
    (hrest : ∀ c ∈ rest.head?, c.isDigit = false) :
    exponentPart (e :: sign ++ digits ++ rest) = e :: sign ++ digits := by
  obtain ⟨d, ds, hcons, hd⟩ := h.exists_cons
  have hplus : d ≠ '+' := by
    rintro rfl
    cases hd
  have hminus : d ≠ '-' := by
    rintro rfl
    cases hd
  have htaken : (sign ++ (digits ++ rest)).take
      (if (sign ++ (digits ++ rest)).head? = some '+' ∨ (sign ++ (digits ++ rest)).head? = some '-'
        then 1 else 0) = sign := by
    rcases hsign with rfl | rfl | rfl
    · simp [hcons, hplus, hminus]
    · rfl
    · rfl
  rw [List.cons_append, List.cons_append, List.append_assoc, exponentPart]
  simp only [htaken, List.drop_left, h.takeWhile_append hrest]
  rw [if_pos ⟨he, h.ne_nil⟩]
  rfl

theorem exponentPart_append (h : SpellsExponent power exponent) (hrest : EndsValue rest) :
    exponentPart (exponent ++ rest) = exponent := by
  have hdigit : ∀ c ∈ rest.head?, c.isDigit = false := fun c hc => (hrest.not_number c hc).1
  cases h with
  | none =>
    cases rest with
    | nil => rfl
    | cons c cs =>
      obtain ⟨-, -, hlower, hupper⟩ := hrest.not_number c rfl
      simp [exponentPart, hlower, hupper]
  | up he hsign h =>
    exact exponentPart_signed he (hsign.imp_right Or.inl) h hdigit
  | @down e digits he h =>
    have hsign : ['-'] = [] ∨ ['-'] = ['+'] ∨ ['-'] = ['-'] := Or.inr (Or.inr rfl)
    exact exponentPart_signed he hsign h hdigit

/-! ## Reading the parts -/

theorem readExponent?_spelled (h : SpellsExponent power exponent) :
    Binary64.readExponent? exponent = some power := by
  cases h with
  | none => rfl
  | @up e sign digits he hsign h =>
    have htaken : takeSign (sign ++ digits) = (false, digits) := by
      rcases hsign with rfl | rfl
      · obtain ⟨d, ds, rfl, hd⟩ := h.exists_cons
        exact takeSign_of_isDigit hd ds
      · rfl
    rw [List.cons_append, Binary64.readExponent?, htaken]
    simp only [he, h.ne_nil, List.all_eq_true.mpr h.isDigit, ne_eq, not_false_eq_true, and_self,
      if_true, Bool.false_eq_true, if_false]
  | down he h =>
    simp only [Binary64.readExponent?, takeSign, he, h.ne_nil, List.all_eq_true.mpr h.isDigit, ne_eq,
      not_false_eq_true, and_self, if_true]

theorem endsValue_nil : EndsValue [] := nofun

/-- The digits of a decimal are read as the number that the grammar means. -/
theorem readMagnitude?_spelled (negative : Bool) (hwhole : IsDigits whole)
    (hfraction : SpellsFraction digits fraction) (hexponent : SpellsExponent power exponent) :
    Binary64.readMagnitude? negative (whole ++ fraction ++ exponent) =
      some (.ofDecimal negative (digitsValue (whole ++ digits)) (power - digits.length)) := by
  have hend := hexponent.head_append endsValue_nil
  rw [List.append_nil] at hend
  have hdigit : ∀ c ∈ exponent.head?, c.isDigit = false := fun c hc => (hend c hc).1
  have hstop := hfraction.head_append hdigit
  have hwholeEmpty : whole.isEmpty = false := List.isEmpty_eq_false_iff.mpr hwhole.ne_nil
  rw [List.append_assoc]
  simp only [Binary64.readMagnitude?, hwhole.takeWhile_append hstop, hwhole.dropWhile_append hstop,
    hwholeEmpty, Bool.false_and, Bool.false_eq_true, if_false]
  cases hfraction with
  | none =>
    have hnoPoint : ∀ more, exponent ≠ '.' :: more := by
      rintro more rfl
      exact (hend '.' rfl).2 rfl
    split
    · rename_i more heq
      exact absurd heq (hnoPoint more)
    · simp [readExponent?_spelled hexponent]
  | digits h =>
    simp only [List.cons_append, h.takeWhile_append hdigit, h.dropWhile_append hdigit,
      readExponent?_spelled hexponent, Option.map_some]

theorem takeSign_minus (negative : Bool) {d : Char} (hd : d.isDigit = true) (ds : List Char) :
    takeSign (minus negative ++ d :: ds) = (negative, d :: ds) := by
  cases negative with
  | true => rfl
  | false => exact takeSign_of_isDigit hd ds

/-- A decimal with its sign. -/
theorem ofPlain?_spelled (negative : Bool) (hwhole : IsDigits whole)
    (hfraction : SpellsFraction digits fraction) (hexponent : SpellsExponent power exponent) :
    Binary64.ofPlain? (minus negative ++ whole ++ fraction ++ exponent) =
      some (.ofDecimal negative (digitsValue (whole ++ digits)) (power - digits.length)) := by
  obtain ⟨d, ds, hcons, hd⟩ := hwhole.exists_cons
  have hsign : takeSign (minus negative ++ whole ++ fraction ++ exponent) =
      (negative, d :: (ds ++ fraction ++ exponent)) := by
    rw [← takeSign_minus negative hd, hcons]
    simp
  rw [Binary64.ofPlain?_of_takeSign hsign hd, ← readMagnitude?_spelled negative hwhole hfraction
    hexponent, hcons]
  rfl

/-! ## Reading a number -/

/-- What the reader makes of the parts of a number. -/
def numberOfParts (negative : Bool) (whole digits fraction exponent : List Char) (power : Int)
    (rest : List Char) : Except Fault (Json × List Char) :=
  if fraction.isEmpty && exponent.isEmpty then
    match integerOfDigits negative whole with
    | .ok n => .ok (.int n, rest)
    | .error fault => .error (.integer fault)
  else
    .ok (.float (.ofDecimal negative (digitsValue (whole ++ digits)) (power - digits.length)), rest)

/-- A number is read part by part. -/
theorem number_parts (negative : Bool) (hwhole : IsWhole whole)
    (hfraction : SpellsFraction digits fraction) (hexponent : SpellsExponent power exponent)
    (hrest : EndsValue rest) :
    number (minus negative ++ whole ++ fraction ++ exponent ++ rest) =
      numberOfParts negative whole digits fraction exponent power rest := by
  obtain ⟨d, ds, hcons, hd⟩ := hwhole.exists_cons
  have hminus : d ≠ '-' := by
    rintro rfl
    cases hd
  have hsign : (minus negative ++ (whole ++ (fraction ++ (exponent ++ rest)))).take
      (if (minus negative ++ (whole ++ (fraction ++ (exponent ++ rest)))).head? = some '-'
        then 1 else 0) = minus negative := by
    cases negative with
    | true => rfl
    | false => simp [minus, hcons, hminus]
  have hend := hexponent.head_append hrest
  have hstop := hfraction.head_append fun c hc => (hend c hc).1
  have hplain := ofPlain?_spelled negative hwhole.toIsDigits hfraction hexponent
  have hwholeEmpty : whole.isEmpty = false := List.isEmpty_eq_false_iff.mpr hwhole.ne_nil
  have hnegative : decide (minus negative ≠ []) = negative := by
    cases negative <;> rfl
  simp only [List.append_assoc] at hplain ⊢
  simp only [number, hsign, List.drop_left, wholePart_append hwhole hstop,
    fractionPart_append hfraction hend, exponentPart_append hexponent hrest, hwholeEmpty,
    Bool.false_eq_true, if_false, hnegative, List.append_assoc, hplain]
  rfl

/-- An integer that is not too long is read. -/
theorem number_int {negative : Bool} (hwhole : IsWhole whole)
    (hlimit : digitsValue whole < 10 ^ digitLimit) (hrest : EndsValue rest) :
    number (minus negative ++ whole ++ rest) =
      .ok (.int (if negative then -(digitsValue whole : Int) else digitsValue whole), rest) := by
  have hlength := hwhole.length_le (by decide) hlimit
  have hread : integerOfDigits negative whole =
      .ok (if negative then -(digitsValue whole : Int) else digitsValue whole) :=
    if_neg (Nat.not_lt.mpr hlength)
  have hparts := number_parts negative hwhole .none .none hrest
  rw [List.append_nil, List.append_nil] at hparts
  rw [hparts]
  simp only [numberOfParts, List.isEmpty_nil, Bool.and_self, if_true, hread]

/-- A decimal is read as the number that it denotes. -/
theorem number_float (negative : Bool) (hwhole : IsWhole whole)
    (hfraction : SpellsFraction digits fraction) (hexponent : SpellsExponent power exponent)
    (hpart : fraction ≠ [] ∨ exponent ≠ []) (hrest : EndsValue rest) :
    number (minus negative ++ whole ++ fraction ++ exponent ++ rest) =
      .ok (.float (.ofDecimal negative (digitsValue (whole ++ digits)) (power - digits.length)),
        rest) := by
  have hpoint : (fraction.isEmpty && exponent.isEmpty) = false := by
    simpa [List.isEmpty_eq_false_iff, ← not_and_or] using hpart
  rw [number_parts negative hwhole hfraction hexponent hrest, numberOfParts, hpoint]
  rfl

end Parts

end LineArithmetic.Json
