import LineArithmetic.Proofs.Binary64.Printing
import LineArithmetic.Proofs.Grammar
import LineArithmetic.Proofs.LineBreaks

/-!
# Lines of one word

A text that is not empty and holds no blanks is one word, and as a line it has one
token.  So it compiles to its number if it is a literal (`compileLine_literal`), and
else to a diagnostic about the whole text (`IsWord.compileLine_eq`).

The texts of numbers are words, whichever way they are written
(`Number.isWord_format`).
-/

namespace LineArithmetic

open Text

/-- A text that is one word when it stands in a line. -/
structure IsWord (text : String) : Prop where
  ne_empty : text ≠ ""
  isBlank_eq : ∀ c ∈ text.toList, isBlank c = false

instance (text : String) : Decidable (IsWord text) :=
  decidable_of_iff (text ≠ "" ∧ text.toList.all fun c => !isBlank c) <| by
    simp only [List.all_eq_true, Bool.not_eq_true']
    exact ⟨fun h => ⟨h.1, h.2⟩, fun h => ⟨h.1, h.2⟩⟩

theorem isWord_of_toList_eq {text : String} {cs : List Char} (htext : text.toList = cs)
    (hne : cs ≠ []) (h : ∀ c ∈ cs, isBlank c = false) : IsWord text := by
  refine ⟨?_, by rwa [htext]⟩
  rintro rfl
  exact hne htext.symm

/-- Words are put together to words. -/
theorem IsWord.append {a b : String} (ha : IsWord a) (hb : IsWord b) : IsWord (a ++ b) := by
  refine ⟨fun h => ha.ne_empty (String.append_eq_empty_iff.mp h).1, fun c hc => ?_⟩
  rw [String.toList_append, List.mem_append] at hc
  exact hc.elim (ha.isBlank_eq c) (hb.isBlank_eq c)

/-! ## Compiling a word -/

section Compiling

variable {text : String} (number : Int)

theorem IsWord.lineTokens_eq (h : IsWord text) :
    lineTokens (some text) = [Token.classify text] := by
  have hne : text.toList ≠ [] := fun hnil => h.ne_empty (String.toList_eq_nil_iff.mp hnil)
  rw [LineArithmetic.lineTokens_eq, words_eq_singleton hne h.isBlank_eq, List.map_singleton,
    String.ofList_toList]

/-- The tokens of a line are words. -/
theorem isWord_of_mem_lineTokens {line : String} {t : Token} (h : t ∈ lineTokens (some line)) :
    IsWord t.text :=
  ⟨text_ne_of_mem_lineTokens h, fun _ => isBlank_of_mem_lineTokens h⟩

theorem isWord_literal (n : Literal) : IsWord n.text := by
  obtain ⟨d, ds, hcons, -⟩ := n.exists_toList_eq_cons
  exact isWord_of_toList_eq rfl (by rw [hcons]; exact List.cons_ne_nil d ds)
    fun c hc => (n.isNumeric_of_mem hc).isBlank_eq

/-- A literal alone compiles to its number. -/
theorem compileLine_literal (n : Literal) :
    (compileLine n.text number).result = .ok (.number n.numeral) := by
  have hkind : Token.kindOf n.text = .number := Token.isNumberLiteral_iff.mp n.isNumber
  have htokens : lineTokens (some n.text) = (Chain.last n).tokens := by
    rw [(isWord_literal n).lineTokens_eq, Token.classify, hkind]
    rfl
  rw [compileLine_chain n.text number htokens]
  rfl

/-- Any other word alone is not the number that a line ends with. -/
theorem IsWord.compileLine_eq (h : IsWord text) (hkind : Token.kindOf text ≠ .number) :
    (compileLine text number).result =
      .ok (.diagnostic ⟨.invalidToken, Parser.aNumber, text, number⟩) := by
  have htokens := h.lineTokens_eq
  have hne : lineTokens (some text) ≠ [] := by
    rw [htokens]
    exact List.cons_ne_nil _ _
  have hwrong : (Token.classify text).kind ≠ .number := hkind
  have hstart : Parser.start [Token.classify text] number =
      ⟨[Token.classify text], [], number⟩ := rfl
  rw [compileLine_eq_run text number hne, htokens, hstart, Parser.run_wrong_first hwrong]
  rfl

end Compiling

/-! ## Numbers -/

section Digits

variable {cs : List Char}

theorem Text.IsDigits.isBlank_eq (h : IsDigits cs) : ∀ c ∈ cs, isBlank c = false :=
  fun c hc => IsNumeric.isBlank_eq (Or.inl (h.isDigit c hc))

theorem isWord_repr (n : Nat) : IsWord n.repr :=
  isWord_of_toList_eq Nat.toList_repr (isDigits_toDigits n).ne_nil (isDigits_toDigits n).isBlank_eq

theorem isWord_minus : IsWord "-" := by decide

theorem isWord_toString (n : Int) : IsWord (toString n) := by
  cases n with
  | ofNat n => exact isWord_repr n
  | negSucc n => exact isWord_minus.append (isWord_repr (n + 1))

end Digits

namespace Binary64

/-- However a magnitude is written, it is a word of digits and a few signs. -/
theorem isWord_magnitudeText (rank : Fin rankLimit) : IsWord (magnitudeText rank) := by
  rcases magnitudeText_cases rank with
    ⟨whole, fraction, hwhole, hfraction, htext, -⟩ |
    ⟨first, fraction, exponent, down, hfirst, hfraction, hexponent, htext, -⟩
  · refine isWord_of_toList_eq htext (by simp) ?_
    rw [List.forall_mem_append, List.forall_mem_cons]
    exact ⟨hwhole.isBlank_eq, by decide, hfraction.isBlank_eq⟩
  · have hsign : isBlank (if down then '-' else '+') = false := by cases down <;> decide
    have hpoint : ∀ c ∈ if fraction = [] then [] else '.' :: fraction, isBlank c = false := by
      rcases hfraction with rfl | hfraction
      · exact nofun
      · rw [if_neg hfraction.ne_nil, List.forall_mem_cons]
        exact ⟨by decide, hfraction.isBlank_eq⟩
    refine isWord_of_toList_eq htext (by simp) ?_
    rw [List.forall_mem_append, List.forall_mem_append, List.forall_mem_cons, List.forall_mem_cons]
    exact ⟨⟨hfirst.isBlank_eq, hpoint⟩, by decide, hsign, hexponent.isBlank_eq⟩

theorem isWord_text (x : Binary64) : IsWord x.text := by
  cases x with
  | nan => decide
  | infinite negative => cases negative <;> decide
  | finite negative rank =>
    cases negative with
    | false =>
      have htext : (finite false rank).text = magnitudeText rank := String.empty_append
      rw [htext]
      exact isWord_magnitudeText rank
    | true => exact isWord_minus.append (isWord_magnitudeText rank)

end Binary64

theorem isWord_nonFiniteWord (x : Binary64) : IsWord (Value.nonFiniteWord x) := by
  unfold Value.nonFiniteWord
  split <;> decide

theorem Number.isWord_format (n : Number) : IsWord (Value.number n).format := by
  cases n with
  | int n => exact isWord_toString n
  | float x =>
    rw [Value.format]
    split
    · exact x.isWord_text
    · exact isWord_nonFiniteWord x

end LineArithmetic
