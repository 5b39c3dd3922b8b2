import LineArithmetic.Node
import LineArithmetic.Proofs.Grammar
import Mathlib.Data.List.TakeWhile

/-!
# Literals

A literal is a word of the number grammar.  It is cut into its integral digits
and the digits behind its point, and the reader of numbers, which knows many
more spellings, reads it as the decimal of these digits (`Literal.read?_text`).
So every literal has a numeral, and making the tree of a literal cannot fail.
-/

namespace LineArithmetic

/-! ## Plain forms -/

namespace Text

theorem IsNumeric.asciiForm_eq {c : Char} (h : IsNumeric c) : asciiForm c = c :=
  if_pos (by have := h.toNat_bounds; omega)

theorem IsNumeric.isAsciiBlank_eq {c : Char} (h : IsNumeric c) : isAsciiBlank c = false := by
  have hbounds := h.toNat_bounds
  have hspace : c ≠ ' ' := by
    rintro rfl
    exact absurd hbounds (by decide)
  simp only [isAsciiBlank, Bool.or_eq_false_iff, beq_eq_false_iff_ne, Bool.and_eq_false_iff,
    decide_eq_false_iff_not]
  exact ⟨hspace, by omega⟩

theorem IsNumeric.toLower_eq {c : Char} (h : IsNumeric c) : c.toLower = c := by
  unfold Char.toLower
  rw [dif_neg]
  rintro ⟨hge, -⟩
  have hupper : 'A'.toNat ≤ c.toNat := UInt32.le_iff_toNat_le.mp hge
  have hbounds := h.toNat_bounds
  exact absurd (hupper.trans hbounds.2) (by decide)

theorem IsNumeric.ne_underscore {c : Char} (h : IsNumeric c) : c ≠ '_' := by
  rintro rfl
  exact absurd h.toNat_bounds (by decide)

/-- Trimming leaves a text alone that holds no character of the class. -/
theorem trim_eq_self {p : Char → Bool} {cs : List Char} (h : ∀ c ∈ cs, p c = false) :
    trim p cs = cs := by
  have hdrop : ∀ l : List Char, (∀ c ∈ l, p c = false) → l.dropWhile p = l := by
    intro l hl
    cases l with
    | nil => rfl
    | cons c l => rw [List.dropWhile_cons_of_neg (by simp [hl c List.mem_cons_self])]
  unfold trim
  rw [hdrop cs h, hdrop cs.reverse fun c hc => h c (List.mem_reverse.mp hc),
    List.reverse_reverse]

/-- Without underscores none is misplaced. -/
theorem underscoresSeparate_of_forall_ne {cs : List Char} (h : ∀ c ∈ cs, c ≠ '_')
    {before : Char} (hbefore : before ≠ '_') : underscoresSeparate before cs = true := by
  induction cs generalizing before with
  | nil => simpa [underscoresSeparate] using hbefore
  | cons c cs ih =>
    have hc : c ≠ '_' := h c List.mem_cons_self
    have hrest := ih (fun d hd => h d (List.mem_cons_of_mem c hd)) hc
    simp [underscoresSeparate, hc, hbefore, hrest]

/-- Digits and points are in plain form. -/
theorem plainForm?_eq_self {text : String} (h : ∀ c ∈ text.toList, IsNumeric c) :
    plainForm? text = some text.toList := by
  have hascii : text.toList.map asciiForm = text.toList :=
    (List.map_congr_left fun c hc => (h c hc).asciiForm_eq).trans (List.map_id _)
  have hunderscore : ∀ c ∈ text.toList, c ≠ '_' := fun c hc => (h c hc).ne_underscore
  have hfilter : text.toList.filter (· != '_') = text.toList :=
    List.filter_eq_self.mpr fun c hc => bne_iff_ne.mpr (hunderscore c hc)
  unfold plainForm?
  rw [hascii, trim_eq_self fun c hc => (h c hc).isAsciiBlank_eq]
  rw [if_pos (underscoresSeparate_of_forall_ne hunderscore (by decide)), hfilter]

/-- A digit is no sign. -/
theorem takeSign_of_isDigit {d : Char} (hd : d.isDigit = true) (ds : List Char) :
    takeSign (d :: ds) = (false, d :: ds) := by
  unfold takeSign
  split
  · rename_i heq
    rw [(List.cons.inj heq).1] at hd
    exact absurd hd (by decide)
  · rename_i heq
    rw [(List.cons.inj heq).1] at hd
    exact absurd hd (by decide)
  · rfl

/-- What starts with a digit is not written with letters only. -/
theorem lowered_ne {d : Char} (hd : d.isDigit = true) (ds : List Char) {c : Char}
    {cs : List Char} (hc : c.isDigit = false) :
    String.ofList ((d :: ds).map Char.toLower) ≠ String.ofList (c :: cs) := by
  intro heq
  have hlists := String.ofList_injective heq
  rw [List.map_cons, IsNumeric.toLower_eq (Or.inl hd)] at hlists
  rw [(List.cons.inj hlists).1, hc] at hd
  cases hd

end Text

/-- A numeral whose sign is followed by a digit is a decimal: the words for numbers
start with a letter. -/
theorem Binary64.ofPlain?_of_takeSign {plain ds : List Char} {negative : Bool} {d : Char}
    (hsign : Text.takeSign plain = (negative, d :: ds)) (hd : d.isDigit = true) :
    ofPlain? plain = readMagnitude? negative (d :: ds) := by
  have hinf : String.ofList ((d :: ds).map Char.toLower) ≠ "inf" :=
    Text.lowered_ne hd ds (by decide : 'i'.isDigit = false)
  have hinfinity : String.ofList ((d :: ds).map Char.toLower) ≠ "infinity" :=
    Text.lowered_ne hd ds (by decide : 'i'.isDigit = false)
  have hnan : String.ofList ((d :: ds).map Char.toLower) ≠ "nan" :=
    Text.lowered_ne hd ds (by decide : 'n'.isDigit = false)
  simp only [ofPlain?, hsign, hinf, hinfinity, hnan, or_self, if_false]

/-- A word of the number grammar. -/
structure Literal where
  text : String
  isNumber : Token.isNumberLiteral text.toList = true

namespace Literal

open Text

/-! ## The parts of a literal -/

/-- The digits in front of the point. -/
def whole (n : Literal) : List Char :=
  n.text.toList.takeWhile Char.isDigit

/-- The digits behind the point; none if there is no point. -/
def fraction (n : Literal) : List Char :=
  (n.text.toList.dropWhile Char.isDigit).tail

theorem isDigit_of_mem_whole {n : Literal} {c : Char} (h : c ∈ n.whole) :
    c.isDigit = true :=
  List.all_eq_true.mp List.all_takeWhile c h

/-- A literal starts with a digit. -/
theorem whole_ne_nil (n : Literal) : n.whole ≠ [] := by
  have hintegral := (Token.isNumberLiteral_iff_parts.mp n.isNumber).1
  exact (Token.isIntegral_iff_isWhole.mp hintegral).ne_nil

/-- What follows the integral digits is nothing, or a point and some digits. -/
theorem isFractionPart_afterWhole (n : Literal) :
    Token.isFractionPart (n.text.toList.dropWhile Char.isDigit) = true :=
  (Token.isNumberLiteral_iff_parts.mp n.isNumber).2

theorem afterWhole_cases (n : Literal) :
    n.text.toList.dropWhile Char.isDigit = [] ∧ n.fraction = [] ∨
      n.text.toList.dropWhile Char.isDigit = '.' :: n.fraction ∧ n.fraction ≠ [] := by
  unfold fraction
  rcases Token.isFractionPart_iff.mp n.isFractionPart_afterWhole with
    hnil | ⟨digits, hdigits, hpoint⟩
  · rw [hnil]
    exact Or.inl ⟨rfl, rfl⟩
  · rw [hpoint]
    exact Or.inr ⟨rfl, hdigits.ne_nil⟩

theorem isDigit_of_mem_fraction {n : Literal} {c : Char} (h : c ∈ n.fraction) :
    c.isDigit = true := by
  unfold fraction at h
  rcases Token.isFractionPart_iff.mp n.isFractionPart_afterWhole with
    hnil | ⟨digits, hdigits, hpoint⟩
  · rw [hnil] at h
    cases h
  · rw [hpoint] at h
    exact hdigits.isDigit c h

/-- A literal is made of digits and points. -/
theorem isNumeric_of_mem {n : Literal} {c : Char} (h : c ∈ n.text.toList) :
    IsNumeric c :=
  (Token.isNumberLiteral_iff_isNumberText.mp n.isNumber).isNumeric c h

/-- A literal has digits behind a point exactly if it has a point. -/
theorem fraction_eq_nil_iff (n : Literal) : n.fraction = [] ↔ '.' ∉ n.text.toList := by
  have hdecomp : n.whole ++ n.text.toList.dropWhile Char.isDigit = n.text.toList :=
    List.takeWhile_append_dropWhile
  constructor
  · intro hnil hmem
    rw [← hdecomp, List.mem_append] at hmem
    rcases hmem with hwhole | hafter
    · exact absurd (isDigit_of_mem_whole hwhole) (by decide)
    · rcases n.afterWhole_cases with ⟨hempty, _⟩ | ⟨_, hne⟩
      · rw [hempty] at hafter
        cases hafter
      · exact hne hnil
  · intro hnot
    rcases n.afterWhole_cases with ⟨_, hnil⟩ | ⟨hpoint, _⟩
    · exact hnil
    · exfalso
      apply hnot
      rw [← hdecomp, hpoint]
      simp

/-! ## Reading a literal -/

/-- The number nearest to a literal. -/
def toBinary64 (n : Literal) : Binary64 :=
  .ofDecimal false (digitsValue (n.whole ++ n.fraction)) (-n.fraction.length)

/-- A literal starts with a digit. -/
theorem exists_toList_eq_cons (n : Literal) :
    ∃ d ds, n.text.toList = d :: ds ∧ d.isDigit = true := by
  have hwhole := n.whole_ne_nil
  unfold whole at hwhole
  cases h : n.text.toList with
  | nil => simp [h] at hwhole
  | cons d ds =>
    refine ⟨d, ds, rfl, ?_⟩
    by_contra hd
    rw [h, List.takeWhile_cons_of_neg hd] at hwhole
    exact hwhole rfl

theorem readMagnitude?_text (n : Literal) :
    Binary64.readMagnitude? false n.text.toList = some n.toBinary64 := by
  have hwhole : n.text.toList.takeWhile Char.isDigit = n.whole := rfl
  have hne : n.whole.isEmpty = false := List.isEmpty_eq_false_iff.mpr n.whole_ne_nil
  have hdigits : ∀ c ∈ n.fraction, c.isDigit = true := fun c => isDigit_of_mem_fraction
  rcases n.afterWhole_cases with ⟨hafter, hnil⟩ | ⟨hafter, _⟩
  · simp [Binary64.readMagnitude?, hwhole, hafter, hne, hnil, Binary64.readExponent?, toBinary64]
  · have htake : n.fraction.takeWhile Char.isDigit = n.fraction :=
      List.takeWhile_eq_self_iff.mpr hdigits
    have hdrop : n.fraction.dropWhile Char.isDigit = [] :=
      List.dropWhile_eq_nil_iff.mpr hdigits
    simp [Binary64.readMagnitude?, hwhole, hafter, hne, htake, hdrop, Binary64.readExponent?,
      toBinary64]

/-- The reader of numbers reads a literal as the decimal of its digits. -/
theorem read?_text (n : Literal) : Binary64.read? n.text = some n.toBinary64 := by
  have hplain : plainForm? n.text = some n.text.toList :=
    plainForm?_eq_self fun c => isNumeric_of_mem
  obtain ⟨d, ds, hcons, hd⟩ := n.exists_toList_eq_cons
  have hsign : takeSign n.text.toList = (false, d :: ds) := by
    rw [hcons, takeSign_of_isDigit hd]
  rw [Binary64.read?, hplain, Option.bind_some, Binary64.ofPlain?_of_takeSign hsign hd, ← hcons]
  exact n.readMagnitude?_text

/-! ## The numeral of a literal -/

/-- The number that a literal denotes. -/
def value (n : Literal) : Number :=
  .ofBinary64 (!n.text.toList.contains '.') n.toBinary64

theorem ofLiteral?_text (n : Literal) : Number.ofLiteral? n.text = some n.value := by
  rw [Number.ofLiteral?, n.read?_text]
  rfl

/-- A literal with the number that it denotes. -/
def numeral (n : Literal) : Numeral :=
  ⟨n.text, n.value, n.ofLiteral?_text⟩

/-- Making the tree of a literal does not fail. -/
theorem ofLiteral_text (n : Literal) : Node.ofLiteral n.text = .ok (.number n.numeral) := by
  unfold Node.ofLiteral
  rw [show n.text = n.numeral.literal from rfl, Numeral.ofLiteral?_literal]

/-- The token of a literal. -/
def token (n : Literal) : Token :=
  ⟨.number, n.text⟩

theorem token_injective {n m : Literal} (h : n.token = m.token) : n = m := by
  cases n
  cases m
  obtain rfl := (Token.mk.inj h).2
  rfl

end Literal

end LineArithmetic
