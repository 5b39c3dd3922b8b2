import LineArithmetic.Proofs.Binary64.Positional
import LineArithmetic.Proofs.CheckedEvaluation
import LineArithmetic.Proofs.Exactness
import LineArithmetic.Proofs.Words

/-!
# Numbers that read back

The value of a line is written as a text, and that text can be given as a line
again.  Literals have no sign and no power of ten, so not every number comes back.
`Number.IsReadable` says which ones do, by the size of the number and not by its text:

* `exists_literal_of_isReadable`: such a number is written as a literal that denotes
  it.  An integer has no point and a binary64 number always has one, so the kind of
  the number comes back too.
* `kindOf_format_ne_number`: any other number is written with a character that
  stands in no literal: a sign, the letter in front of a power of ten, or the
  letters of a word.

`format_reads_back` puts both together with what a line of one word compiles to.
-/

namespace LineArithmetic

open Binary64 Text

/-- The numbers that come back from their texts.  No number of the format lies between
`10 ^ (-4)` and the number next to it, so the bound can as well be that number. -/
def Number.IsReadable : Number → Prop
  | .int k => 0 ≤ k ∧ k ≤ 2 ^ 53
  | .float x => x = zero false ∨ 1 / 10 ^ 4 ≤ x.toRat ∧ x.toRat < 10 ^ 16

/-! ## Literals of given digits -/

section Literals

variable {whole : List Char}

/-- Digits without a superfluous zero, and perhaps a point with further digits behind
them, are a literal of these digits. -/
theorem exists_literal_of_parts {text : String} {rest : List Char} (hwhole : IsWhole whole)
    (hrest : Token.isFractionPart rest = true) (htext : text.toList = whole ++ rest) :
    ∃ n : Literal, n.text = text ∧ n.whole = whole ∧ n.fraction = rest.tail := by
  have hintegral : Token.IsIntegral whole := Token.isIntegral_iff_isWhole.mpr hwhole
  have hnumber : Token.isNumberLiteral text.toList = true := by
    rw [htext]
    exact Token.isNumberLiteral_append hintegral hrest
  refine ⟨⟨text, hnumber⟩, rfl, ?_, ?_⟩
  · rw [Literal.whole, htext, Token.takeWhile_parts hintegral hrest]
  · rw [Literal.fraction, htext, Token.dropWhile_parts hintegral hrest]

end Literals

/-! ## Readable numbers -/

section Readable

/-- A natural number up to `2 ^ 53` is written as a literal that denotes it. -/
theorem exists_literal_of_nat {n : Nat} (h : n ≤ 2 ^ 53) :
    ∃ literal : Literal, literal.text = toString (n : Int) ∧ literal.value = .int n := by
  have htext : (toString (n : Int)).toList = Nat.toDigits 10 n ++ [] := by
    rw [List.append_nil]
    exact toList_toString_ofNat n
  obtain ⟨literal, hliteral, hwhole, hfraction⟩ :=
    exists_literal_of_parts (isWhole_toDigits n) rfl htext
  have hrounded := literal.isRounded_toBinary64 hfraction
  rw [hwhole, digitsValue_toDigits] at hrounded
  exact ⟨literal, hliteral, Literal.value_eq_int_iff.mpr ⟨hfraction, hrounded.toInt?_eq h, h⟩⟩

/-- A magnitude that is written positionally is written as a literal that denotes it. -/
theorem exists_literal_of_positional {rank : Fin rankLimit} (h : InPositionalRange rank) :
    ∃ literal : Literal, literal.text = magnitudeText rank ∧
      literal.value = .float (finite false rank) := by
  obtain ⟨whole, fraction, hwhole, hfraction, htext, hread⟩ := isPositional_magnitudeText h
  obtain ⟨literal, hliteral, hliteralWhole, hliteralFraction⟩ :=
    exists_literal_of_parts hwhole (Token.isFractionPart_point hfraction) htext
  have hpoint : literal.text.toList.contains '.' = true := by
    rw [hliteral, htext]
    simp
  have hnumber : literal.toBinary64 = finite false rank := by
    rw [Literal.toBinary64, hliteralWhole, hliteralFraction]
    exact hread false
  refine ⟨literal, hliteral, ?_⟩
  rw [Literal.value, hpoint, hnumber]
  exact Number.ofBinary64_false _

theorem text_finite_false (rank : Fin rankLimit) :
    (finite false rank).text = magnitudeText rank := String.empty_append

/-- Only finite numbers without a sign are as great as the positional range demands. -/
theorem exists_rank_of_toRat_pos {x : Binary64} (h : 0 < x.toRat) :
    ∃ rank : Fin rankLimit, x = finite false rank := by
  have hunit : (0 : ℚ) < unitsPerOne := Nat.cast_pos.mpr unitsPerOne_pos
  have hunits : 0 < x.signedUnits := by
    have hmul := mul_pos h hunit
    rw [toRat, div_mul_cancel₀ _ hunit.ne'] at hmul
    exact_mod_cast hmul
  cases x with
  | nan => cases hunits
  | infinite negative => cases hunits
  | finite negative rank =>
    cases negative with
    | false => exact ⟨rank, rfl⟩
    | true =>
      have hnegative : 0 < -(unitsOfRank rank : Int) := hunits
      omega

/-- A binary64 number is readable exactly if it is finite, has no sign and is written
positionally. -/
theorem Number.isReadable_float_iff {x : Binary64} :
    (Number.float x).IsReadable ↔
      ∃ rank : Fin rankLimit, x = finite false rank ∧ InPositionalRange rank := by
  unfold IsReadable
  constructor
  · rintro (rfl | hrange)
    · exact ⟨⟨0, by decide⟩, rfl, Or.inl rfl⟩
    · have hpos : 0 < x.toRat := lt_of_lt_of_le (by positivity) hrange.1
      obtain ⟨rank, rfl⟩ := exists_rank_of_toRat_pos hpos
      exact ⟨rank, rfl, (inPositionalRange_iff rank).mpr (Or.inr hrange)⟩
  · rintro ⟨rank, rfl, hrange⟩
    refine ((inPositionalRange_iff rank).mp hrange).imp_left fun hzero => ?_
    exact congrArg (finite false) (Fin.ext hzero)

/-- A readable number is written as a literal that denotes it. -/
theorem exists_literal_of_isReadable {n : Number} (h : n.IsReadable) :
    ∃ literal : Literal, literal.text = (Value.number n).format ∧ literal.value = n := by
  cases n with
  | int k =>
    obtain ⟨m, rfl⟩ := Int.eq_ofNat_of_zero_le h.1
    exact exists_literal_of_nat (by exact_mod_cast h.2)
  | float x =>
    obtain ⟨rank, rfl, hrange⟩ := Number.isReadable_float_iff.mp h
    obtain ⟨literal, htext, hvalue⟩ := exists_literal_of_positional hrange
    exact ⟨literal, htext.trans (text_finite_false rank).symm, hvalue⟩

end Readable

/-! ## Other numbers -/

section Other

theorem kindOf_minus (text : String) : Token.kindOf ("-" ++ text) ≠ .number := by
  refine Token.kindOf_ne_number (c := '-') ?_ (by decide)
  rw [String.toList_append]
  exact List.mem_append_left _ (by decide)

/-- The letter in front of a power of ten stands in no literal. -/
theorem kindOf_scientific {rank : Fin rankLimit} (h : ¬ InPositionalRange rank) :
    Token.kindOf (magnitudeText rank) ≠ .number := by
  obtain ⟨first, fraction, exponent, down, -, -, -, htext, -⟩ := isScientific_magnitudeText h
  refine Token.kindOf_ne_number (c := 'e') ?_ (by decide)
  rw [htext]
  simp

theorem kindOf_nonFiniteWord (x : Binary64) :
    Token.kindOf (Value.nonFiniteWord x) ≠ .number := by
  unfold Value.nonFiniteWord
  split <;> decide

/-- A small number that is not readable is not written as a literal. -/
theorem kindOf_format_ne_number {n : Number} (hsmall : (Value.number n).IsSmall)
    (h : ¬ n.IsReadable) : Token.kindOf (Value.number n).format ≠ .number := by
  cases n with
  | int k =>
    cases k with
    | ofNat m =>
      exfalso
      apply h
      have hle : m ≤ 2 ^ 53 := hsmall
      exact ⟨Int.natCast_nonneg m, Int.ofNat_le.mpr hle⟩
    | negSucc m => exact kindOf_minus _
  | float x =>
    cases x with
    | nan => exact kindOf_nonFiniteWord _
    | infinite negative => exact kindOf_nonFiniteWord _
    | finite negative rank =>
      cases negative with
      | true => exact kindOf_minus _
      | false =>
        have hrange : ¬ InPositionalRange rank := fun hrange =>
          h (Number.isReadable_float_iff.mpr ⟨rank, rfl, hrange⟩)
        have htext : (Value.number (.float (finite false rank))).format = magnitudeText rank :=
          text_finite_false rank
        rw [htext]
        exact kindOf_scientific hrange

end Other

/-! ## Lines of numbers -/

/-- What becomes of the text of a number when it is given as a line again.

A readable number comes back: its text compiles to a number that evaluates to it, an
integer to an integer and a binary64 number to a binary64 number.  The text of any
other number that a tree evaluates to, and the text of nothing, compiles to a
diagnostic about the whole text. -/
theorem format_reads_back (number : Int) :
    (∀ n : Number, n.IsReadable → ∃ numeral,
      (compileLine (Value.number n).format number).result = .ok (.number numeral) ∧
        (Node.number numeral).eval = .ok (.number n)) ∧
    (∀ (node : Node) (n : Number), node.eval = .ok (.number n) → ¬ n.IsReadable →
      (compileLine (Value.number n).format number).result = .ok (.diagnostic
        ⟨.invalidToken, "a number literal", (Value.number n).format, number⟩)) ∧
    (compileLine Value.void.format number).result = .ok (.diagnostic
      ⟨.invalidToken, "a number literal", Value.void.format, number⟩) := by
  refine ⟨fun n h => ?_, fun node n heval h => ?_, ?_⟩
  · obtain ⟨literal, htext, hvalue⟩ := exists_literal_of_isReadable h
    refine ⟨literal.numeral, ?_, ?_⟩
    · rw [← htext]
      exact compileLine_literal number literal
    · rw [← hvalue]
      rfl
  · have hkind := kindOf_format_ne_number (Node.isSmall_of_eval heval) h
    exact n.isWord_format.compileLine_eq number hkind
  · have hword : IsWord Value.void.format := by decide
    exact hword.compileLine_eq number (by decide)

/-- The rank of the least magnitude that is written positionally, zero apart. -/
def leastRank : Fin rankLimit :=
  ⟨nearestRank unitsPerOne (10 ^ 4), by decide +kernel⟩

theorem isReadable_least : (Number.float (finite false leastRank)).IsReadable := by
  have hrange : Layout.plain.positionalFrom ≤ leadingPlace leastRank ∧
      leadingPlace leastRank < Layout.plain.positionalBelow := by decide +kernel
  exact Number.isReadable_float_iff.mpr ⟨leastRank, rfl, Or.inr hrange⟩

/-- The tree of the least integer that a line evaluates to. -/
def negativeLimit : Node :=
  .binary "-" (.number zeroLiteral.numeral) (.number limitLiteral.numeral)

/-- The least number that is written positionally comes back; a negative one does not. -/
theorem reads_back_least :
    (∃ numeral, (compileLine "0.0001" 1).result = .ok (.number numeral) ∧
      (Node.number numeral).eval = .ok (.number (.float (finite false leastRank)))) ∧
    negativeLimit.eval = .ok (.number (.int (-2 ^ 53))) ∧
    (compileLine "-9007199254740992" 1).result =
      .ok (.diagnostic ⟨.invalidToken, "a number literal", "-9007199254740992", 1⟩) := by
  have hpositive : (Value.number (.float (finite false leastRank))).format = "0.0001" := by
    decide +kernel
  have hnegative : (Value.number (.int (-2 ^ 53))).format = "-9007199254740992" := by
    decide +kernel
  have hvalue : negativeLimit.eval = .ok (.number (.int (-2 ^ 53))) := by decide +kernel
  have hunreadable : ¬ (Number.int (-2 ^ 53)).IsReadable := fun h => absurd h.1 (by decide)
  obtain ⟨hback, hother, -⟩ := format_reads_back 1
  have hfirst := hback _ isReadable_least
  have hsecond := hother negativeLimit _ hvalue hunreadable
  rw [hpositive] at hfirst
  rw [hnegative] at hsecond
  exact ⟨hfirst, hvalue, hsecond⟩

end LineArithmetic
