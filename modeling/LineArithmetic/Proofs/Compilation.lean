import LineArithmetic.Document
import LineArithmetic.Proofs.Parsing

/-!
# Compiling a line

Compiling a line never fails, and its tokens alone decide what it gives:
nothing for a line without tokens, the tree of a chain for tokens that
alternate, and a diagnostic about the first misfit from the right, or about a
missing first number, for all others.  `compileLine_cases` is the common ground
of the two theorems at the end, which state this for the accepted lines and for
the diagnostics.
-/

namespace LineArithmetic

/-! ## The tokens of a line -/

theorem Text.ne_nil_of_mem_closeWord {word : List Char} {others : List (List Char)}
    (h : ∀ w ∈ others, w ≠ []) : ∀ w ∈ closeWord word others, w ≠ [] := by
  unfold closeWord
  split
  · exact h
  · rename_i hne
    intro w hw
    rcases List.mem_cons.mp hw with rfl | hmem
    · exact fun hnil => hne (List.isEmpty_iff.mpr hnil)
    · exact h w hmem

/-- A word is not empty. -/
theorem Text.ne_nil_of_mem_words {cs : List Char} : ∀ w ∈ words cs, w ≠ [] := by
  have hstate : ∀ w ∈ (cs.foldr collect ([], [])).2, w ≠ [] := by
    induction cs with
    | nil => exact fun w hw => nomatch hw
    | cons c cs ih =>
      rw [List.foldr_cons, collect]
      split
      · exact ne_nil_of_mem_closeWord ih
      · exact ih
  exact ne_nil_of_mem_closeWord hstate

section Tokens

variable {line : Option String} {t : Token}

theorem isClassified_of_mem_lineTokens (h : t ∈ lineTokens line) : t.IsClassified := by
  obtain ⟨word, -, rfl⟩ := List.mem_map.mp h
  exact Token.isClassified_classify _

/-- A token of a line is not empty. -/
theorem text_ne_of_mem_lineTokens (h : t ∈ lineTokens line) : t.text ≠ "" := by
  obtain ⟨word, hword, rfl⟩ := List.mem_map.mp h
  intro hempty
  exact Text.ne_nil_of_mem_words word hword (String.ofList_eq_empty_iff.mp hempty)

end Tokens

/-! ## The answer about a line -/

/-- A parser of tokens that are not empty is not blank. -/
theorem isBlank_start {tokens : List Token} (hne : tokens ≠ [])
    (htext : ∀ t ∈ tokens, t.text ≠ "") (number : Int) :
    (Parser.start tokens number).isBlank = false := by
  have hpending : (Parser.start tokens number).pending = tokens.reverse := rfl
  unfold Parser.isBlank
  rw [hpending, Bool.and_eq_false_iff]
  right
  split
  · rename_i h
    exact absurd (List.reverse_eq_nil_iff.mp h) hne
  · rename_i t h
    have hmem : t ∈ tokens := List.mem_reverse.mp (h ▸ List.mem_cons_self)
    exact beq_false_of_ne (htext t hmem)
  · rfl

section Answer

variable (line : String) (number : Int)

theorem compileLine_blank (h : lineTokens (some line) = []) :
    compileLine line number = ⟨.ok .void, .start [] number, []⟩ := by
  rw [compileLine, h]
  rfl

theorem compileLine_eq_run (h : lineTokens (some line) ≠ []) :
    compileLine line number = (Parser.start (lineTokens (some line)) number).run := by
  have hblank := isBlank_start h (fun t => text_ne_of_mem_lineTokens) number
  rw [compileLine, Parser.parse, if_neg (by rw [hblank]; exact Bool.false_ne_true)]

/-- A line whose tokens are a chain compiles to its tree. -/
theorem compileLine_chain {c : Chain} (h : lineTokens (some line) = c.tokens) :
    compileLine line number = ⟨.ok c.tree, ⟨[], [], number⟩, []⟩ := by
  have hne : lineTokens (some line) ≠ [] := by
    rw [h]
    cases c <;> exact List.cons_ne_nil _ _
  rw [compileLine_eq_run line number hne, h]
  have hrun := Parser.run_chain c [] number
  rw [List.append_nil] at hrun
  exact hrun.trans (Parser.run_done c.tree number)

/-- The four answers about a line. -/
theorem compileLine_cases :
    (lineTokens (some line) = [] ∧ (compileLine line number).result = .ok .void) ∨
      (∃ c : Chain, c.tokens = lineTokens (some line) ∧
        (compileLine line number).result = .ok c.tree) ∨
      (∃ distance t, (lineTokens (some line)).reverse[distance]? = some t ∧
        t.kind ≠ expectedKind distance ∧
        FitsBelow (lineTokens (some line)).reverse distance ∧
        (compileLine line number).result = .ok (Parser.misfitAnswer distance t number)) ∨
      (lineTokens (some line) ≠ [] ∧ (lineTokens (some line)).length % 2 = 0 ∧
        FitsBelow (lineTokens (some line)).reverse (lineTokens (some line)).reverse.length ∧
        (compileLine line number).result = .ok (Parser.incompleteAnswer number)) := by
  by_cases hne : lineTokens (some line) = []
  · left
    exact ⟨hne, by rw [compileLine_blank line number hne]⟩
  · right
    have hscan := scan hne fun t => isClassified_of_mem_lineTokens
    rw [compileLine_eq_run line number hne]
    rcases Parser.run_scan hscan number with hchain | hmisfit | hincomplete
    · exact Or.inl hchain
    · exact Or.inr (Or.inl hmisfit)
    · exact Or.inr (Or.inr ⟨hne, hincomplete⟩)

/-- Compiling a line never fails. -/
theorem exists_compileLine_eq : ∃ node, (compileLine line number).result = .ok node := by
  rcases compileLine_cases line number with
    ⟨-, h⟩ | ⟨c, -, h⟩ | ⟨distance, t, -, -, -, h⟩ | ⟨-, -, -, h⟩
  all_goals exact ⟨_, h⟩

end Answer

/-- Alternating tokens of a line fit from the right as well. -/
theorem Alternates.fitsBelow_reverse {line : Option String} (h : Alternates (lineTokens line)) :
    FitsBelow (lineTokens line).reverse (lineTokens line).reverse.length := by
  obtain ⟨c, hc⟩ := h.exists_chain fun t => isClassified_of_mem_lineTokens
  rw [← hc]
  exact c.fitsBelow_reverse_tokens

/-- A token that does not fit keeps the tokens of a line from alternating. -/
theorem not_alternates_of_misfit {line : Option String} {distance : Nat} {t : Token}
    (ht : (lineTokens line).reverse[distance]? = some t)
    (hkind : t.kind ≠ expectedKind distance) : ¬ Alternates (lineTokens line) := by
  intro h
  obtain ⟨hlt, -⟩ := List.getElem?_eq_some_iff.mp ht
  exact hkind (h.fitsBelow_reverse distance t hlt ht)

/-- An expression that a line compiles to is the tree of its chain. -/
theorem exists_chain_of_isExpression {line : String} {number : Int} {node : Node}
    (hresult : (compileLine line number).result = .ok node) (hnode : node.IsExpression) :
    ∃ c : Chain, c.tokens = lineTokens (some line) ∧ node = c.tree := by
  rcases compileLine_cases line number with
    ⟨-, hcase⟩ | ⟨c, hc, hcase⟩ | ⟨distance, t, -, -, -, hcase⟩ | ⟨-, -, -, hcase⟩
  all_goals
    rw [hresult] at hcase
    obtain rfl := Except.ok.inj hcase
  · exact hnode.elim
  · exact ⟨c, hc, rfl⟩
  · exact hnode.elim
  · exact hnode.elim

/-- A line compiles to nothing exactly if it has no tokens, to an expression
exactly if its tokens alternate, and to a diagnostic otherwise.  The expression
is the tree of the chain that the tokens spell. -/
theorem compileLine_sound_complete (line : String) (number : Int) :
    ∃ node, (compileLine line number).result = .ok node ∧
      (node = .void ↔ lineTokens (some line) = []) ∧
      (node.IsExpression ↔ Alternates (lineTokens (some line))) ∧
      ((∃ d, node = .diagnostic d) ↔
        lineTokens (some line) ≠ [] ∧ ¬ Alternates (lineTokens (some line))) ∧
      (node.IsExpression → ∃ c : Chain, c.tokens = lineTokens (some line) ∧ node = c.tree ∧
        node.spelling = (lineTokens (some line)).map Token.text) := by
  rcases compileLine_cases line number with
    ⟨hnil, hresult⟩ | ⟨c, hc, hresult⟩ | ⟨distance, t, ht, hkind, -, hresult⟩ |
      ⟨hne, heven, -, hresult⟩
  · refine ⟨.void, hresult, ?_⟩
    simp [hnil, Node.IsExpression, Alternates]
  · have halternates : Alternates (lineTokens (some line)) := hc ▸ c.alternates_tokens
    have hspelling : c.tree.spelling = (lineTokens (some line)).map Token.text := by
      rw [c.spelling_tree, hc]
    have hne : lineTokens (some line) ≠ [] := fun h => by simp [h, Alternates] at halternates
    refine ⟨c.tree, hresult, ?_, ?_, ?_, fun _ => ⟨c, hc, rfl, hspelling⟩⟩
    · have hvoid : c.tree ≠ .void := by cases c <;> exact Node.noConfusion
      exact iff_of_false hvoid hne
    · exact iff_of_true c.isExpression_tree halternates
    · have hdiagnostic : ¬ ∃ d, c.tree = .diagnostic d := by
        rintro ⟨d, hd⟩
        cases c <;> exact Node.noConfusion hd
      exact iff_of_false hdiagnostic fun h => h.2 halternates
  · have hnot := not_alternates_of_misfit ht hkind
    have hne : lineTokens (some line) ≠ [] := fun h => by simp [h] at ht
    refine ⟨_, hresult, ?_⟩
    simp [hne, hnot, Node.IsExpression, Parser.misfitAnswer]
  · have hnot : ¬ Alternates (lineTokens (some line)) := fun h => by
      have hodd := h.1
      omega
    refine ⟨_, hresult, ?_⟩
    simp [hne, hnot, Node.IsExpression, Parser.incompleteAnswer]

/-- Two misfits of a line with nothing wrong to the right of them are one. -/
theorem eq_of_first_misfits {tokens : List Token} {i j : Nat} {t u : Token}
    (ht : tokens[i]? = some t) (hti : t.kind ≠ expectedKind i) (hi : FitsBelow tokens i)
    (hu : tokens[j]? = some u) (huj : u.kind ≠ expectedKind j) (hj : FitsBelow tokens j) :
    i = j := by
  rcases Nat.lt_trichotomy i j with hlt | heq | hgt
  · exact absurd (hj i t hlt ht) hti
  · exact heq
  · exact absurd (hi j u hgt hu) huj

/-- The diagnostic of a line that has tokens and is no expression.  It is about
the first token from the right that does not fit, and about a missing number if
all tokens fit; then the number of tokens is even.  No line ever gives one of
the two diagnostics about the stack. -/
theorem compileLine_diagnostic (line : String) (number : Int) :
    (lineTokens (some line) ≠ [] →
      (∀ node, (compileLine line number).result = .ok node → ¬ node.IsExpression) →
        (∀ distance t, (lineTokens (some line)).reverse[distance]? = some t →
          t.kind ≠ expectedKind distance →
          FitsBelow (lineTokens (some line)).reverse distance →
          (compileLine line number).result =
            .ok (.diagnostic
              ⟨.invalidToken, Parser.expectedText distance, t.text, number⟩)) ∧
        (FitsBelow (lineTokens (some line)).reverse (lineTokens (some line)).reverse.length →
          (lineTokens (some line)).length % 2 = 0 ∧
          (compileLine line number).result =
            .ok (.diagnostic ⟨.incompleteExpression, "a number literal", "", number⟩))) ∧
      ∀ d, (compileLine line number).result = .ok (.diagnostic d) →
        d.line = number ∧ d.kind ≠ .invalidStack ∧ d.kind ≠ .multipleExpressions := by
  rcases compileLine_cases line number with
    ⟨hnil, hresult⟩ | ⟨c, hc, hresult⟩ | ⟨i, u, hu, hui, hi, hresult⟩ |
      ⟨hne, heven, hfits, hresult⟩
  · refine ⟨fun hne => absurd hnil hne, fun d hd => ?_⟩
    rw [hresult] at hd
    exact Node.noConfusion (Except.ok.inj hd)
  · refine ⟨fun _ hnot => absurd c.isExpression_tree (hnot _ hresult), fun d hd => ?_⟩
    rw [hresult] at hd
    cases c <;> exact Node.noConfusion (Except.ok.inj hd)
  · refine ⟨fun _ _ => ⟨fun distance t ht hkind hbelow => ?_, fun hall => ?_⟩, fun d hd => ?_⟩
    · obtain rfl := eq_of_first_misfits ht hkind hbelow hu hui hi
      rw [hu] at ht
      rw [hresult, ← Option.some.inj ht]
      rfl
    · obtain ⟨hlt, -⟩ := List.getElem?_eq_some_iff.mp hu
      exact absurd (hall i u hlt hu) hui
    · rw [hresult] at hd
      rw [← Node.diagnostic.inj (Except.ok.inj hd)]
      exact ⟨rfl, nofun, nofun⟩
  · refine ⟨fun _ _ => ⟨fun distance t ht hkind _ => ?_, fun _ => ⟨heven, hresult⟩⟩,
      fun d hd => ?_⟩
    · obtain ⟨hlt, -⟩ := List.getElem?_eq_some_iff.mp ht
      exact absurd (hfits distance t hlt ht) hkind
    · rw [hresult] at hd
      rw [← Node.diagnostic.inj (Except.ok.inj hd)]
      exact ⟨rfl, nofun, nofun⟩

/-- Of two misfits the one further to the right is reported. -/
theorem compileLine_two_misfits :
    (compileLine "x + 1 y 2" 1).result =
      .ok (.diagnostic ⟨.invalidToken, "an operation token", "y", 1⟩) := by
  have hmisfit : (lineTokens (some "x + 1 y 2")).reverse[1]? = some ⟨.unknown, "y"⟩ := by
    decide
  have hkind : (⟨.unknown, "y"⟩ : Token).kind ≠ expectedKind 1 := by decide
  have hfits : FitsBelow (lineTokens (some "x + 1 y 2")).reverse 1 := by
    intro i t hi ht
    obtain rfl : i = 0 := by omega
    rw [← Option.some.inj ht]
    decide
  have hexpression : ∀ node, (compileLine "x + 1 y 2" 1).result = .ok node →
      ¬ node.IsExpression := by
    intro node hresult hnode
    obtain ⟨c, hc, -⟩ := exists_chain_of_isExpression hresult hnode
    exact not_alternates_of_misfit hmisfit hkind (hc ▸ c.alternates_tokens)
  exact ((compileLine_diagnostic "x + 1 y 2" 1).1 (by decide) hexpression).1 1
    ⟨.unknown, "y"⟩ hmisfit hkind hfits

end LineArithmetic
