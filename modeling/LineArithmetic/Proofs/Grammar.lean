import LineArithmetic.Proofs.Digits
import LineArithmetic.Token
import Mathlib.Data.List.Basic

/-!
# The grammar of tokens

A number is an integral part, alone or with a point and one or more digits behind
it (`IsNumberText`).  The check of a text takes the digits at its front and looks at
what follows, and it accepts exactly the numbers (`isNumberLiteral_iff_isNumberText`):
the integral part of a number ends where its digits end, because a point is no
digit.

`classify_grammar` gives the three classes of texts by the grammar.  Texts that are
close to a number and none are collected in `HasFlaw`.
-/

namespace LineArithmetic

/-! ## Digits and points -/

namespace Text

/-- A digit or a point, as they stand in literals. -/
def IsNumeric (c : Char) : Prop :=
  c.isDigit = true ∨ c = '.'

instance (c : Char) : Decidable (IsNumeric c) :=
  inferInstanceAs (Decidable (_ ∨ _))

theorem IsNumeric.toNat_bounds {c : Char} (h : IsNumeric c) :
    0x2E ≤ c.toNat ∧ c.toNat ≤ 0x39 := by
  rcases h with hdigit | rfl
  · have hbounds := Char.isDigit_iff_toNat.mp hdigit
    have hzero : '0'.toNat = 48 := rfl
    have hnine : '9'.toNat = 57 := rfl
    omega
  · decide

theorem IsNumeric.isBlank_eq {c : Char} (h : IsNumeric c) : isBlank c = false := by
  have hbounds := h.toNat_bounds
  simp only [isBlank, Bool.or_eq_false_iff, Bool.and_eq_false_iff, decide_eq_false_iff_not,
    beq_eq_false_iff_ne]
  omega

end Text

open Text

namespace Token

/-! ## Numbers -/

/-- The integral parts: one digit, or several of which the first is not zero. -/
inductive IsIntegral : List Char → Prop where
  | digit {d : Char} (hd : d.isDigit = true) : IsIntegral [d]
  | digits {d : Char} {ds : List Char} (hd : d.isDigit = true) (hne : d ≠ '0')
      (hds : ∀ c ∈ ds, c.isDigit = true) : IsIntegral (d :: ds)

/-- The numbers: an integral part, alone or with a point and digits behind it. -/
inductive IsNumberText : List Char → Prop where
  | whole {whole : List Char} (hwhole : IsIntegral whole) : IsNumberText whole
  | point {whole fraction : List Char} (hwhole : IsIntegral whole)
      (hfraction : IsDigits fraction) : IsNumberText (whole ++ '.' :: fraction)

section Parts

variable {cs whole rest : List Char}

theorem isIntegral_iff_isWhole : IsIntegral cs ↔ IsWhole cs := by
  constructor
  · intro h
    cases h with
    | digit hd => exact ⟨⟨nofun, by simpa using hd⟩, fun hzero => by simpa using hzero⟩
    | digits hd hne hds =>
      refine isWhole_of_head_ne ⟨nofun, List.forall_mem_cons.mpr ⟨hd, hds⟩⟩ ?_
      simpa using hne
  · intro h
    obtain ⟨d, ds, rfl, hd⟩ := h.exists_cons
    by_cases hzero : d = '0'
    · subst hzero
      obtain rfl : ds = [] := (List.cons.inj (h.zero_alone rfl)).2
      exact .digit hd
    · exact .digits hd hzero fun c hc => h.isDigit c (List.mem_cons_of_mem d hc)

theorem isIntegralPart_iff : isIntegralPart cs = true ↔ IsIntegral cs := by
  constructor
  · intro h
    cases cs with
    | nil => cases h
    | cons d ds =>
      cases ds with
      | nil => exact .digit h
      | cons e es =>
        simp only [isIntegralPart, Bool.and_eq_true, bne_iff_ne, List.all_eq_true] at h
        exact .digits h.1.1 h.1.2 h.2
  · intro h
    cases h with
    | digit hd => exact hd
    | @digits d ds hd hne hds =>
      cases ds with
      | nil => exact hd
      | cons e es =>
        simp only [isIntegralPart, Bool.and_eq_true, bne_iff_ne, List.all_eq_true]
        exact ⟨⟨hd, hne⟩, hds⟩

theorem isFractionPart_iff :
    isFractionPart cs = true ↔ cs = [] ∨ ∃ fraction, IsDigits fraction ∧ cs = '.' :: fraction := by
  cases cs with
  | nil => simp [isFractionPart]
  | cons c ds =>
    simp only [isFractionPart, Bool.and_eq_true, beq_iff_eq, Bool.not_eq_true',
      List.isEmpty_eq_false_iff, List.all_eq_true]
    constructor
    · rintro ⟨⟨rfl, hne⟩, hall⟩
      exact Or.inr ⟨ds, ⟨hne, hall⟩, rfl⟩
    · rintro (hnil | ⟨fraction, hfraction, heq⟩)
      · cases hnil
      · obtain ⟨rfl, rfl⟩ := List.cons.inj heq
        exact ⟨⟨rfl, hfraction.ne_nil⟩, hfraction.isDigit⟩

theorem isFractionPart_point {fraction : List Char} (h : IsDigits fraction) :
    isFractionPart ('.' :: fraction) = true :=
  isFractionPart_iff.mpr (Or.inr ⟨fraction, h, rfl⟩)

theorem isNumberLiteral_iff_parts : isNumberLiteral cs = true ↔
    IsIntegral (cs.takeWhile Char.isDigit) ∧
      isFractionPart (cs.dropWhile Char.isDigit) = true := by
  rw [isNumberLiteral, Bool.and_eq_true, isIntegralPart_iff]

/-- What may follow an integral part does not continue its digits. -/
theorem isDigit_head_of_isFractionPart (h : isFractionPart rest = true) :
    ∀ c ∈ rest.head?, c.isDigit = false := by
  rcases isFractionPart_iff.mp h with rfl | ⟨fraction, -, rfl⟩
  · exact nofun
  · rintro c ⟨⟩
    rfl

theorem takeWhile_parts (hwhole : IsIntegral whole) (hrest : isFractionPart rest = true) :
    (whole ++ rest).takeWhile Char.isDigit = whole :=
  (isIntegral_iff_isWhole.mp hwhole).takeWhile_append (isDigit_head_of_isFractionPart hrest)

theorem dropWhile_parts (hwhole : IsIntegral whole) (hrest : isFractionPart rest = true) :
    (whole ++ rest).dropWhile Char.isDigit = rest :=
  (isIntegral_iff_isWhole.mp hwhole).dropWhile_append (isDigit_head_of_isFractionPart hrest)

theorem isNumberLiteral_append (hwhole : IsIntegral whole) (hrest : isFractionPart rest = true) :
    isNumberLiteral (whole ++ rest) = true := by
  rw [isNumberLiteral_iff_parts, takeWhile_parts hwhole hrest, dropWhile_parts hwhole hrest]
  exact ⟨hwhole, hrest⟩

/-- A number is an integral part and a fraction part. -/
theorem IsNumberText.exists_parts (h : IsNumberText cs) :
    ∃ whole rest, IsIntegral whole ∧ isFractionPart rest = true ∧ cs = whole ++ rest := by
  cases h with
  | whole hwhole => exact ⟨_, [], hwhole, rfl, (List.append_nil _).symm⟩
  | point hwhole hfraction => exact ⟨_, _, hwhole, isFractionPart_point hfraction, rfl⟩

/-- The check accepts exactly the numbers. -/
theorem isNumberLiteral_iff_isNumberText : isNumberLiteral cs = true ↔ IsNumberText cs := by
  constructor
  · intro h
    obtain ⟨hwhole, hrest⟩ := isNumberLiteral_iff_parts.mp h
    have hcut : cs.takeWhile Char.isDigit ++ cs.dropWhile Char.isDigit = cs :=
      List.takeWhile_append_dropWhile
    rcases isFractionPart_iff.mp hrest with hnil | ⟨fraction, hfraction, hpoint⟩
    · rw [hnil, List.append_nil] at hcut
      rw [← hcut]
      exact .whole hwhole
    · rw [← hcut, hpoint]
      exact .point hwhole hfraction
  · intro h
    obtain ⟨whole, rest, hwhole, hrest, rfl⟩ := h.exists_parts
    exact isNumberLiteral_append hwhole hrest

/-- A number is made of digits and points. -/
theorem IsNumberText.isNumeric (h : IsNumberText cs) : ∀ c ∈ cs, IsNumeric c := by
  obtain ⟨whole, rest, hwhole, hrest, rfl⟩ := h.exists_parts
  rw [List.forall_mem_append]
  refine ⟨fun c hc => Or.inl ((isIntegral_iff_isWhole.mp hwhole).isDigit c hc), ?_⟩
  rcases isFractionPart_iff.mp hrest with rfl | ⟨fraction, hfraction, rfl⟩
  · exact List.forall_mem_nil _
  · rw [List.forall_mem_cons]
    exact ⟨Or.inr rfl, fun c hc => Or.inl (hfraction.isDigit c hc)⟩

end Parts

/-! ## The three classes -/

section Classes

variable {text : String}

theorem isNumberLiteral_iff : isNumberLiteral text.toList = true ↔ kindOf text = .number := by
  unfold kindOf
  constructor
  · intro h
    rw [if_pos h]
  · intro h
    split at h
    · assumption
    · split at h <;> cases h

theorem kindOf_eq_number_iff : kindOf text = .number ↔ IsNumberText text.toList :=
  isNumberLiteral_iff.symm.trans isNumberLiteral_iff_isNumberText

/-- A word with a character that stands in no literal is no literal. -/
theorem kindOf_ne_number {c : Char} (hc : c ∈ text.toList) (hnot : ¬ IsNumeric c) :
    kindOf text ≠ .number := by
  intro hkind
  exact hnot ((kindOf_eq_number_iff.mp hkind).isNumeric c hc)

/-- No operator is a number. -/
theorem kindOf_of_mem_operators (h : text ∈ operators) : kindOf text = .operator := by
  have hall : ∀ op ∈ operators, kindOf op = .operator := by decide
  exact hall text h

theorem kindOf_eq_operator_iff : kindOf text = .operator ↔ text ∈ operators := by
  constructor
  · intro h
    unfold kindOf at h
    split at h
    · cases h
    · split at h
      · assumption
      · cases h
  · exact kindOf_of_mem_operators

theorem mem_operators_iff :
    text ∈ operators ↔ text = "+" ∨ text = "-" ∨ text = "*" ∨ text = "/" := by
  simp [operators]

theorem kindOf_eq_unknown_iff :
    kindOf text = .unknown ↔ kindOf text ≠ .number ∧ kindOf text ≠ .operator := by
  cases kindOf text <;> decide

end Classes

/-! ## Texts that are close to numbers -/

/-- What no number has: a zero in front of other digits, a sign, the letter in front of
a power of ten, a point at one of its ends, a character beyond ASCII, as the digits of
other scripts are, or a blank anywhere, in front, between or at the end. -/
inductive HasFlaw (cs : List Char) : Prop where
  | leadingZero {d : Char} {ds : List Char} (hd : d.isDigit = true) (h : cs = '0' :: d :: ds)
  | sign (h : '+' ∈ cs ∨ '-' ∈ cs)
  | exponent (h : 'e' ∈ cs ∨ 'E' ∈ cs)
  | leadingPoint (h : cs.head? = some '.')
  | trailingPoint (h : cs.getLast? = some '.')
  | beyondAscii {c : Char} (hc : c ∈ cs) (h : 128 ≤ c.toNat)
  | blank {c : Char} (hc : c ∈ cs) (h : isBlank c = true)

section Flaws

variable {cs : List Char} {text : String}

theorem IsNumberText.head?_ne (h : IsNumberText cs) : cs.head? ≠ some '.' := by
  obtain ⟨whole, rest, hwhole, -, rfl⟩ := h.exists_parts
  obtain ⟨d, ds, rfl, hd⟩ := (isIntegral_iff_isWhole.mp hwhole).exists_cons
  rintro ⟨⟩
  cases hd

theorem IsNumberText.getLast?_ne (h : IsNumberText cs) : cs.getLast? ≠ some '.' := by
  have hdigits : ∀ {ds : List Char}, IsDigits ds → ds.getLast? ≠ some '.' := by
    intro ds hds hlast
    exact absurd (hds.isDigit '.' (List.mem_of_getLast? hlast)) (by decide)
  cases h with
  | whole hwhole => exact hdigits (isIntegral_iff_isWhole.mp hwhole).toIsDigits
  | point hwhole hfraction =>
    rw [List.getLast?_append_cons, List.getLast?_cons_of_ne_nil hfraction.ne_nil]
    exact hdigits hfraction

/-- A zero at the front is the whole integral part. -/
theorem IsNumberText.isDigit_second {d : Char} {ds : List Char}
    (h : IsNumberText ('0' :: d :: ds)) : d.isDigit = false := by
  obtain ⟨whole, rest, hwhole, hrest, heq⟩ := h.exists_parts
  have hfront := isIntegral_iff_isWhole.mp hwhole
  obtain ⟨e, es, rfl, -⟩ := hfront.exists_cons
  obtain ⟨rfl, htail⟩ := List.cons.inj heq
  obtain rfl : es = [] := (List.cons.inj (hfront.zero_alone rfl)).2
  obtain rfl : d :: ds = rest := htail
  exact isDigit_head_of_isFractionPart hrest d rfl

theorem kindOf_ne_number_of_hasFlaw (h : HasFlaw text.toList) : kindOf text ≠ .number := by
  intro hkind
  have hnumber : IsNumberText text.toList := kindOf_eq_number_iff.mp hkind
  cases h with
  | leadingZero hd h =>
    rw [h] at hnumber
    rw [hnumber.isDigit_second] at hd
    cases hd
  | sign h =>
    rcases h with hplus | hminus
    · exact kindOf_ne_number hplus (by decide) hkind
    · exact kindOf_ne_number hminus (by decide) hkind
  | exponent h =>
    rcases h with hlower | hupper
    · exact kindOf_ne_number hlower (by decide) hkind
    · exact kindOf_ne_number hupper (by decide) hkind
  | leadingPoint h => exact hnumber.head?_ne h
  | trailingPoint h => exact hnumber.getLast?_ne h
  | beyondAscii hc h =>
    refine kindOf_ne_number hc (fun hnumeric => ?_) hkind
    have hbounds := hnumeric.toNat_bounds
    omega
  | blank hc h =>
    refine kindOf_ne_number hc (fun hnumeric => ?_) hkind
    rw [hnumeric.isBlank_eq] at h
    cases h

end Flaws

/-- The classes of texts.

A text keeps its characters and gets one class: it is a number exactly if the grammar
has it, an operator if it is one of the four signs, and unknown otherwise.  A text
with a flaw is never a number. -/
theorem classify_grammar (text : String) :
    (classify text).text = text ∧
    ((classify text).kind = .number ↔ IsNumberText text.toList) ∧
    ((classify text).kind = .operator ↔
      text = "+" ∨ text = "-" ∨ text = "*" ∨ text = "/") ∧
    ((classify text).kind = .unknown ↔ ¬ IsNumberText text.toList ∧
      ¬ (text = "+" ∨ text = "-" ∨ text = "*" ∨ text = "/")) ∧
    (HasFlaw text.toList → (classify text).kind ≠ .number) := by
  have hnumber : (classify text).kind = .number ↔ IsNumberText text.toList :=
    kindOf_eq_number_iff
  have hoperator : (classify text).kind = .operator ↔
      text = "+" ∨ text = "-" ∨ text = "*" ∨ text = "/" :=
    kindOf_eq_operator_iff.trans mem_operators_iff
  refine ⟨rfl, hnumber, hoperator, ?_, kindOf_ne_number_of_hasFlaw⟩
  rw [← hnumber, ← hoperator]
  exact kindOf_eq_unknown_iff

/-- A line feed behind a number, and a number with a digit of another script. -/
theorem classify_flawed :
    HasFlaw "2.5\n".toList ∧ (classify "2.5\n").kind ≠ .number ∧
      HasFlaw "1\u0663".toList ∧ (classify "1\u0663").kind ≠ .number := by
  have hlineFeed : HasFlaw "2.5\n".toList := .blank (c := '\n') (by decide) (by decide)
  have hdigit : HasFlaw "1\u0663".toList := .beyondAscii (c := '\u0663') (by decide) (by decide)
  obtain ⟨-, -, -, -, hfirst⟩ := classify_grammar "2.5\n"
  obtain ⟨-, -, -, -, hsecond⟩ := classify_grammar "1\u0663"
  exact ⟨hlineFeed, hfirst hlineFeed, hdigit, hsecond hdigit⟩

end Token

end LineArithmetic
