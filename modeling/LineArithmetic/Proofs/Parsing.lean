import LineArithmetic.Proofs.Folding

/-!
# Runs of the parser

What a parser does from its start, up to the place where the scan of the line
stops.  The invariant of the loop is that the stack holds the tree of the chain
that was taken, and nothing else: `run_chain` moves it across a chain of any
length.  `run_scan` then says what is answered at each place where a scan can
stop, and tells these places by their distance from the end of the line.
-/

namespace LineArithmetic.Parser

/-! ## Runs -/

section Run

variable {acc : Node} {rest : List Token} {line : Int}

theorem run_done (acc : Node) (line : Int) :
    run ⟨[], [acc], line⟩ = ⟨.ok acc, ⟨[], [], line⟩, []⟩ := by
  rw [run]
  rfl

theorem run_first_literal (n : Literal) (rest : List Token) (line : Int) :
    run ⟨n.token :: rest, [], line⟩ = run ⟨rest, [.number n.numeral], line⟩ := by
  rw [run]
  simp only [Literal.token, ne_eq, not_true_eq_false, if_false, n.ofLiteral_text]
  rfl

theorem run_wrong_first {t : Token} (ht : t.kind ≠ .number) :
    run ⟨t :: rest, [], line⟩ = fail ⟨rest, [], line⟩ .invalidToken aNumber t.text [] := by
  rw [run]
  exact if_pos ht

/-- A fold that gives a tree is pushed, and the run goes on. -/
theorem run_fold_ok {t : Token} {node : Node} {q : Parser}
    (hfold : fold ⟨rest, [], line⟩ acc t = ⟨.ok node, q, []⟩) (hnode : node.IsExpression) :
    run ⟨t :: rest, [acc], line⟩ = run (q.push node) := by
  rw [run]
  simp only [hfold]
  cases node with
  | number numeral => rfl
  | binary op left right => rfl
  | void | diagnostic | foreign => exact hnode.elim

/-- A fold that gives a diagnostic ends the run. -/
theorem run_fold_fail {t : Token} {q : Parser} {kind : Diagnostic.Kind}
    {expected token : String}
    (hfold : fold ⟨rest, [], line⟩ acc t = q.fail kind expected token []) :
    run ⟨t :: rest, [acc], line⟩ = q.fail kind expected token [] := by
  rw [run]
  simp only [hfold]
  rfl

/-- An operator and a literal are folded into an operation. -/
theorem fold_literal {p : Parser} (hacc : acc.IsExpression) (op : Operator) (n : Literal)
    (hp : p.pending = n.token :: rest) :
    p.fold acc op.token =
      ⟨.ok (.binary op.symbol acc (.number n.numeral)), { p with pending := rest }, []⟩ :=
  fold_operation hacc rfl hp rfl n.ofLiteral_text

/-- The loop moves across a chain, which is left on the stack as its tree. -/
theorem run_chain (c : Chain) (rest : List Token) (line : Int) :
    run ⟨c.tokens.reverse ++ rest, [], line⟩ = run ⟨rest, [c.tree], line⟩ := by
  induction c generalizing rest with
  | last n => exact run_first_literal n rest line
  | link n op c ih =>
    have hpending : (Chain.link n op c).tokens.reverse ++ rest =
        c.tokens.reverse ++ op.token :: n.token :: rest := by
      simp [Chain.tokens]
    rw [hpending, ih]
    exact run_fold_ok (fold_literal c.isExpression_tree op n rfl) trivial

end Run

/-! ## Reports -/

section Reports

variable {acc : Node} {rest : List Token} {line : Int}

theorem records_finish (p : Parser) : p.finish.records = [] := by
  unfold finish
  split
  · rfl
  · rfl
  · split <;> rfl

theorem isExpression_ofLiteral {literal : String} {node : Node}
    (h : Node.ofLiteral literal = .ok node) : node.IsExpression := by
  unfold Node.ofLiteral at h
  split at h
  · exact Except.ok.inj h ▸ trivial
  · cases h

/-- The first token of a run ends it, or is pushed as a number. -/
theorem run_first_cases (t : Token) (rest : List Token) (line : Int) :
    (∃ result, run ⟨t :: rest, [], line⟩ = ⟨result, ⟨rest, [], line⟩, []⟩) ∨
      ∃ node, node.IsExpression ∧ run ⟨t :: rest, [], line⟩ = run ⟨rest, [node], line⟩ := by
  by_cases hkind : t.kind = .number
  · cases hliteral : Node.ofLiteral t.text with
    | error fault =>
      left
      refine ⟨.error fault, ?_⟩
      rw [run]
      simp [hkind, hliteral]
    | ok node =>
      right
      refine ⟨node, isExpression_ofLiteral hliteral, ?_⟩
      rw [run]
      simp [hkind, hliteral, push]
  · left
    exact ⟨_, run_wrong_first hkind⟩

/-- Whether a step gives no tree of its own: a diagnostic, or a fault. -/
def Step.IsFailure (s : Step) : Prop :=
  (∃ d, s.result = .ok (.diagnostic d)) ∨ ∃ fault, s.result = .error fault

theorem Step.IsFailure.eq_diagnostic {s : Step} {node : Node} (h : s.IsFailure)
    (hresult : s.result = .ok node) : ∃ d, node = .diagnostic d := by
  rcases h with ⟨d, hd⟩ | ⟨fault, hfault⟩
  · rw [hd] at hresult
    exact ⟨d, (Except.ok.inj hresult).symm⟩
  · rw [hfault] at hresult
    cases hresult

/-- A fold that fails ends the run, and the tree of any other one is pushed. -/
theorem run_fold_cases (t : Token) (rest : List Token) (acc : Node) (below : List Node)
    (line : Int) :
    (run ⟨t :: rest, acc :: below, line⟩ = fold ⟨rest, below, line⟩ acc t ∧
      (fold ⟨rest, below, line⟩ acc t).IsFailure) ∨
      ∃ node, (fold ⟨rest, below, line⟩ acc t).result = .ok node ∧
        (∀ d, node ≠ .diagnostic d) ∧
        run ⟨t :: rest, acc :: below, line⟩ =
          { run ((fold ⟨rest, below, line⟩ acc t).parser.push node) with
            records := (fold ⟨rest, below, line⟩ acc t).records ++
              (run ((fold ⟨rest, below, line⟩ acc t).parser.push node)).records } := by
  rw [run]
  dsimp only
  split
  · rename_i fault hresult
    exact Or.inl ⟨rfl, Or.inr ⟨fault, hresult⟩⟩
  · rename_i d hresult
    exact Or.inl ⟨rfl, Or.inl ⟨d, hresult⟩⟩
  · rename_i node hnode hresult
    exact Or.inr ⟨node, hresult, fun d hd => hnode d hd, rfl⟩

/-- A run that finds expressions on the stack reports nothing. -/
theorem records_run : ∀ p : Parser, (∀ node ∈ p.stack, node.IsExpression) → p.run.records = []
  | ⟨[], stack, line⟩, _ => by
    rw [run]
    exact records_finish _
  | ⟨t :: rest, [], line⟩, _ => by
    rcases run_first_cases t rest line with ⟨result, hrun⟩ | ⟨node, hnode, hrun⟩
    · rw [hrun]
    · rw [hrun]
      refine records_run ⟨rest, [node], line⟩ fun other hother => ?_
      rwa [List.mem_singleton.mp hother]
  | ⟨t :: rest, acc :: below, line⟩, h => by
    have heffect := fold_effect ⟨rest, below, line⟩ acc t
    obtain ⟨hrecords, hgives⟩ := heffect.of_isExpression (h acc List.mem_cons_self)
    rcases run_fold_cases t rest acc below line with
      ⟨hrun, -⟩ | ⟨node, hresult, hnode, hrun⟩
    · rw [hrun, hrecords]
    · rw [hrun, hrecords]
      show (run _).records = []
      refine records_run (push _ node) fun other hother => ?_
      rcases List.mem_cons.mp hother with rfl | hmem
      · exact (hgives _ hresult).resolve_right fun ⟨d, hd⟩ => hnode d hd
      · rw [heffect.stack_eq] at hmem
        exact h other (List.mem_cons_of_mem _ hmem)
  termination_by p => p.pending.length
  decreasing_by
    · simp
    · have := pending_length_fold_le ⟨rest, below, line⟩ acc t
      simp only [push, List.length_cons] at this ⊢
      omega

end Reports

/-! ## Answers -/

/-- What a diagnostic says to be expected at a distance from the end of a line. -/
def expectedText (distance : Nat) : String :=
  if distance % 2 = 0 then "a number literal" else "an operation token"

/-- The answer about the first token from the right that does not fit. -/
def misfitAnswer (distance : Nat) (t : Token) (line : Int) : Node :=
  .diagnostic ⟨.invalidToken, expectedText distance, t.text, line⟩

/-- The answer about a line that starts with an operator. -/
def incompleteAnswer (line : Int) : Node :=
  .diagnostic ⟨.incompleteExpression, "a number literal", "", line⟩

/-- What a run answers, by the place where the scan of the line stops. -/
theorem run_scan {tokens : List Token} (h : Scan tokens) (line : Int) :
    (∃ c : Chain, c.tokens = tokens ∧ (start tokens line).run.result = .ok c.tree) ∨
      (∃ distance t, tokens.reverse[distance]? = some t ∧ t.kind ≠ expectedKind distance ∧
        FitsBelow tokens.reverse distance ∧
        (start tokens line).run.result = .ok (misfitAnswer distance t line)) ∨
      (tokens.length % 2 = 0 ∧ FitsBelow tokens.reverse tokens.reverse.length ∧
        (start tokens line).run.result = .ok (incompleteAnswer line)) := by
  have hstart : start tokens line = ⟨tokens.reverse, [], line⟩ := rfl
  rw [hstart]
  cases h with
  | complete c =>
    left
    have hrun := run_chain c [] line
    rw [List.append_nil] at hrun
    exact ⟨c, rfl, by rw [hrun, run_done]⟩
  | noNumber before hkind =>
    right; left
    refine ⟨0, _, by simp, hkind, fun i t hi => absurd hi (Nat.not_lt_zero i), ?_⟩
    rw [List.reverse_append, List.reverse_singleton, List.singleton_append,
      run_wrong_first hkind]
    rfl
  | noOperator before hkind c =>
    rename_i t
    right; left
    have hpending : (before ++ t :: c.tokens).reverse =
        c.tokens.reverse ++ t :: before.reverse := by simp
    have hodd := c.length_tokens_mod_two
    rw [hpending]
    refine ⟨c.tokens.reverse.length, t, by simp, ?_, c.fitsBelow_reverse_tokens.append _, ?_⟩
    · simpa [expectedKind, hodd] using hkind
    · rw [run_chain, run_fold_fail (fold_no_operator c.isExpression_tree hkind)]
      simp [fail, misfitAnswer, expectedText, anOperator, hodd]
  | noOperand op c =>
    right; right
    have hpending : (op.token :: c.tokens).reverse = c.tokens.reverse ++ [op.token] := by simp
    have hodd := c.length_tokens_mod_two
    rw [hpending]
    refine ⟨by simp only [List.length_cons]; omega, ?_, ?_⟩
    · rw [List.length_append]
      refine (c.fitsBelow_reverse_tokens.append _).succ (t := op.token) (by simp) ?_
      simp [expectedKind, hodd, Operator.token]
    · have hop : op.token.kind = .operator := rfl
      rw [run_chain, run_fold_fail (fold_no_operand c.isExpression_tree hop rfl)]
      rfl
  | wrongOperand before hkind op c =>
    rename_i t
    right; left
    have hpending : (before ++ t :: op.token :: c.tokens).reverse =
        c.tokens.reverse ++ op.token :: t :: before.reverse := by simp
    have hodd := c.length_tokens_mod_two
    rw [hpending]
    refine ⟨c.tokens.reverse.length + 1, t, by simp, ?_, ?_, ?_⟩
    · have heven : (c.tokens.length + 1) % 2 = 0 := by omega
      simpa [expectedKind, heven] using hkind
    · refine (c.fitsBelow_reverse_tokens.append _).succ (t := op.token) (by simp) ?_
      simp [expectedKind, hodd, Operator.token]
    · have heven : (c.tokens.length + 1) % 2 = 0 := by omega
      have hop : op.token.kind = .operator := rfl
      rw [run_chain, run_fold_fail (fold_wrong_operand c.isExpression_tree hop rfl hkind)]
      simp [fail, misfitAnswer, expectedText, aNumber, heven]

end LineArithmetic.Parser
