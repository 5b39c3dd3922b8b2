import LineArithmetic.Proofs.Parsing

/-!
# Using a parser again

A parser can be asked to parse more than once, and between two parses tokens
can be fed to it, its line number can be set and single folds can be made.
`Action` is one of these steps and `Parser.after` a whole history of them.

Nothing of a history stays behind but the tokens that were not taken and the
line number, since every step leaves the stack empty.  For a parse this is read
off `Ends`, which lists all the ways in which a run can end, with the tokens
that each of them leaves:

* `ends_run_expression` and `ends_run_first`: every run ends in one of them.
* `stack_act` and `stack_after`: a step, and so a history, keeps the stack empty.
-/

namespace LineArithmetic.Parser

/-! ## The ends of a run -/

/-- How a run over pending tokens ends: with an expression when all of them are
taken, with a diagnostic or a fault about the token that was taken last, or with
a diagnostic when an operand is missing. -/
inductive Ends (pending : List Token) (line : Int) : Step → Prop where
  | expression {node : Node} (h : node.IsExpression) :
      Ends pending line ⟨.ok node, ⟨[], [], line⟩, []⟩
  | misfit (taken : List Token) {rest : List Token} {t : Token} (expected : String)
      (h : pending = taken ++ t :: rest) :
      Ends pending line (fail ⟨rest, [], line⟩ .invalidToken expected t.text [])
  | incomplete : Ends pending line (fail ⟨[], [], line⟩ .incompleteExpression aNumber "" [])
  | unreadable (taken : List Token) {rest : List Token} {t : Token}
      (h : pending = taken ++ t :: rest)
      (hfault : Node.ofLiteral t.text = .error (.unreadableNumber t.text)) :
      Ends pending line ⟨.error (.unreadableNumber t.text), ⟨rest, [], line⟩, []⟩

section Ends

variable {pending rest : List Token} {line : Int} {step : Step} {acc : Node}

/-- A run ends in the same way behind tokens that were taken before. -/
theorem Ends.append (h : Ends pending line step) (taken : List Token) :
    Ends (taken ++ pending) line step := by
  cases h with
  | expression hnode => exact .expression hnode
  | misfit before expected h =>
    exact .misfit (taken ++ before) expected (by rw [h, List.append_assoc])
  | incomplete => exact .incomplete
  | unreadable before h hfault =>
    exact .unreadable (taken ++ before) (by rw [h, List.append_assoc]) hfault

/-- A fold that gives a fault ends the run. -/
theorem run_fold_error {t : Token} {fault : Fault} {q : Parser}
    (hfold : fold ⟨rest, [], line⟩ acc t = ⟨.error fault, q, []⟩) :
    run ⟨t :: rest, [acc], line⟩ = ⟨.error fault, q, []⟩ := by
  rw [run]
  simp only [hfold]

/-- Onto an expression a token ends the run, alone or with the token in front of
it, or both are folded into a new expression. -/
theorem run_onto_expression (hacc : acc.IsExpression) (t : Token) (rest : List Token)
    (line : Int) :
    Ends (t :: rest) line (run ⟨t :: rest, [acc], line⟩) ∨
      ∃ operand below node, rest = operand :: below ∧ node.IsExpression ∧
        run ⟨t :: rest, [acc], line⟩ = run ⟨below, [node], line⟩ := by
  have heffect := fold_effect ⟨rest, [], line⟩ acc t
  generalize hfold : fold ⟨rest, [], line⟩ acc t = step at heffect
  cases heffect with
  | foreign h => rcases kind_of_isExpression hacc with hk | hk <;> rw [h] at hk <;> cases hk
  | diagnostic h => exact (h ▸ hacc).elim
  | void h => exact (h ▸ hacc).elim
  | noOperator =>
    left
    rw [run_fold_fail hfold]
    exact .misfit [] anOperator rfl
  | noOperand _ _ hp =>
    left
    obtain rfl : rest = [] := hp
    rw [run_fold_fail hfold]
    exact .incomplete
  | @wrongOperand operand below _ _ hp =>
    left
    obtain rfl : rest = operand :: below := hp
    rw [run_fold_fail hfold]
    exact .misfit [t] aNumber rfl
  | @unreadable operand below _ _ hp _ hliteral =>
    left
    obtain rfl : rest = operand :: below := hp
    rw [run_fold_error hfold]
    exact .unreadable [t] rfl hliteral
  | @operation operand below numeral _ _ hp =>
    right
    obtain rfl : rest = operand :: below := hp
    exact ⟨operand, below, .binary t.text acc (.number numeral), rfl, trivial,
      run_fold_ok hfold trivial⟩

/-- A run that finds one expression on the stack ends in one of the listed ways. -/
theorem ends_run_expression : ∀ (pending : List Token) {acc : Node}, acc.IsExpression →
    ∀ line, Ends pending line (run ⟨pending, [acc], line⟩)
  | [], _, hacc, line => by
    rw [run_done]
    exact .expression hacc
  | t :: rest, _, hacc, line => by
    rcases run_onto_expression hacc t rest line with
      hends | ⟨operand, below, node, rfl, hnode, hrun⟩
    · exact hends
    · rw [hrun]
      exact (ends_run_expression below hnode line).append [t, operand]
  termination_by pending => pending.length

/-- So does a run that starts with an empty stack and has a token to take. -/
theorem ends_run_first (t : Token) (rest : List Token) (line : Int) :
    Ends (t :: rest) line (run ⟨t :: rest, [], line⟩) := by
  by_cases hkind : t.kind = .number
  · rcases ofLiteral_cases t.text with ⟨numeral, hliteral⟩ | hliteral
    · have hrun : run ⟨t :: rest, [], line⟩ = run ⟨rest, [.number numeral], line⟩ := by
        rw [run]
        simp [hkind, hliteral, push]
      rw [hrun]
      have hnumber : (Node.number numeral).IsExpression := trivial
      exact (ends_run_expression rest hnumber line).append [t]
    · have hrun : run ⟨t :: rest, [], line⟩ =
          ⟨.error (.unreadableNumber t.text), ⟨rest, [], line⟩, []⟩ := by
        rw [run]
        simp [hkind, hliteral]
      rw [hrun]
      exact .unreadable [] rfl hliteral
  · rw [run_wrong_first hkind]
    exact .misfit [] aNumber rfl

/-! ## What an end leaves -/

theorem Ends.stack_eq_nil (h : Ends pending line step) : step.parser.stack = [] := by
  cases h <;> rfl

/-- The tokens of a line around one that was taken. -/
theorem reverse_eq_append {taken rest : List Token} {t : Token} (h : pending = taken ++ t :: rest) :
    pending.reverse = rest.reverse ++ t :: taken.reverse := by
  simp [h]

/-- A run leaves a front part of the tokens that it finds. -/
theorem Ends.remaining_prefix (h : Ends pending line step) :
    step.parser.remaining <+: pending.reverse := by
  cases h with
  | expression => exact List.nil_prefix
  | misfit taken expected h =>
    rw [reverse_eq_append h]
    exact List.prefix_append _ _
  | incomplete => exact List.nil_prefix
  | unreadable taken h =>
    rw [reverse_eq_append h]
    exact List.prefix_append _ _

/-- An expression is made of all tokens. -/
theorem Ends.remaining_of_expression (h : Ends pending line step) {node : Node}
    (hresult : step.result = .ok node) (hnode : node.IsExpression) :
    step.parser.remaining = [] := by
  cases h with
  | expression => rfl
  | misfit => exact absurd hnode (Except.ok.inj hresult ▸ id)
  | incomplete => rfl
  | unreadable => cases hresult

/-- A diagnostic is about the leftmost token that was taken, or about a missing
number. -/
theorem Ends.diagnostic (h : Ends pending line step) {d : Diagnostic}
    (hresult : step.result = .ok (.diagnostic d)) :
    d.kind = .invalidToken ∧ (∃ t behind, t.text = d.token ∧
        pending.reverse = step.parser.remaining ++ t :: behind) ∨
      d.kind = .incompleteExpression := by
  cases h with
  | expression hnode =>
    obtain rfl := Except.ok.inj hresult
    exact hnode.elim
  | misfit taken expected h =>
    obtain rfl := Node.diagnostic.inj (Except.ok.inj hresult)
    exact Or.inl ⟨rfl, _, _, rfl, reverse_eq_append h⟩
  | incomplete =>
    obtain rfl := Node.diagnostic.inj (Except.ok.inj hresult)
    exact Or.inr rfl
  | unreadable => cases hresult

/-- A fault is that of the leftmost token that was taken, which cannot be read. -/
theorem Ends.fault (h : Ends pending line step) {fault : Fault}
    (hresult : step.result = .error fault) :
    ∃ t behind, fault = .unreadableNumber t.text ∧
      Node.ofLiteral t.text = .error (.unreadableNumber t.text) ∧
      pending.reverse = step.parser.remaining ++ t :: behind := by
  cases h with
  | expression => cases hresult
  | misfit => cases hresult
  | incomplete => cases hresult
  | unreadable taken h hfault =>
    exact ⟨_, _, (Except.error.inj hresult).symm, hfault, reverse_eq_append h⟩

end Ends

/-! ## Histories -/

/-- One step of the use of a parser. -/
inductive Action where
  | parse
  | fold (acc : Node) (op : Token)
  | feed (tokens : List Token)
  | setLine (line : Int)
  deriving DecidableEq, Repr

/-- The parser after a step, whether the step succeeds or not. -/
def act (p : Parser) : Action → Parser
  | .parse => p.parse.parser
  | .fold acc op => (p.fold acc op).parser
  | .feed tokens => p.feed tokens
  | .setLine line => { p with line := line }

/-- The parser after a history. -/
def after (p : Parser) (actions : List Action) : Parser :=
  actions.foldl act p

section History

variable {p : Parser}

/-- A parse with an empty stack gives nothing and takes nothing, or it ends like
a run. -/
theorem parse_cases (h : p.stack = []) :
    p.parse = ⟨.ok .void, p, []⟩ ∨ Ends p.pending p.line p.parse := by
  obtain ⟨pending, stack, line⟩ := p
  obtain rfl : stack = [] := h
  unfold parse
  split
  · exact Or.inl rfl
  · rename_i hblank
    right
    cases pending with
    | nil => exact absurd rfl hblank
    | cons t rest => exact ends_run_first t rest line

theorem stack_parse (h : p.stack = []) : p.parse.parser.stack = [] := by
  rcases parse_cases h with hvoid | hends
  · rw [hvoid, h]
  · exact hends.stack_eq_nil

/-- A step keeps the stack empty. -/
theorem stack_act (h : p.stack = []) (action : Action) : (p.act action).stack = [] := by
  cases action with
  | parse => exact stack_parse h
  | fold acc op => exact (fold_effect p acc op).stack_eq.trans h
  | feed tokens => exact h
  | setLine line => exact h

/-- So does a history. -/
theorem stack_after (h : p.stack = []) (actions : List Action) :
    (p.after actions).stack = [] := by
  unfold after
  induction actions generalizing p with
  | nil => exact h
  | cons action actions ih => exact ih (stack_act h action)

/-- A parser with an empty stack is a new one for what it has not taken. -/
theorem eq_start_of_stack (h : p.stack = []) : p = start p.remaining p.line := by
  obtain ⟨pending, stack, line⟩ := p
  obtain rfl : stack = [] := h
  simp [start, remaining]

end History

/-- Whatever was done with a parser, its stack is empty and it parses like a new
one for its remaining tokens and its line number.  A parse leaves a front part of
these tokens, and none if it gives an expression.  The token behind that part is
the offending one of a wrong token, and that of a fault, which is always a number
that cannot be read.  No parse complains about the stack. -/
theorem parse_after_any_history (tokens : List Token) (line : Int) (actions : List Action) :
    let p := (start tokens line).after actions
    p.stack = [] ∧
      p.parse = (start p.remaining p.line).parse ∧
      p.parse.parser.stack = [] ∧
      p.parse.parser.remaining <+: p.remaining ∧
      (∀ node, p.parse.result = .ok node → node.IsExpression →
        p.parse.parser.remaining = []) ∧
      (∀ d, p.parse.result = .ok (.diagnostic d) →
        d.kind ≠ .multipleExpressions ∧ d.kind ≠ .invalidStack ∧
        (d.kind = .invalidToken → ∃ t behind, t.text = d.token ∧
          p.remaining = p.parse.parser.remaining ++ t :: behind)) ∧
      ∀ fault, p.parse.result = .error fault →
        fault ≠ .emptyStack ∧ ∃ t behind, fault = .unreadableNumber t.text ∧
          Node.ofLiteral t.text = .error (.unreadableNumber t.text) ∧
          p.remaining = p.parse.parser.remaining ++ t :: behind := by
  intro p
  have hstack : p.stack = [] := stack_after rfl actions
  refine ⟨hstack, congrArg parse (eq_start_of_stack hstack), stack_parse hstack, ?_⟩
  rcases parse_cases hstack with hvoid | hends
  · rw [hvoid]
    refine ⟨List.prefix_rfl, fun node hnode hexpression => ?_, nofun, nofun⟩
    obtain rfl := Except.ok.inj hnode
    exact hexpression.elim
  · refine ⟨hends.remaining_prefix, fun node => hends.remaining_of_expression, fun d hd => ?_,
      fun fault hfault => ?_⟩
    · rcases hends.diagnostic hd with ⟨hkind, hoffending⟩ | hkind
      · rw [hkind]
        exact ⟨nofun, nofun, fun _ => hoffending⟩
      · rw [hkind]
        exact ⟨nofun, nofun, nofun⟩
    · obtain ⟨t, behind, rfl, hliteral, hremaining⟩ := hends.fault hfault
      exact ⟨nofun, t, behind, rfl, hliteral, hremaining⟩

/-- A parse that meets a number which cannot be read leaves what stands in front
of it, and goes on from there when it is asked again. -/
example :
    let p := (start [⟨.number, "1"⟩, ⟨.operator, "+"⟩, ⟨.number, "x"⟩] 1).after
      [.parse, .feed [⟨.number, "2"⟩]]
    p.remaining.map Token.text = ["1", "+", "2"] ∧
      p.parse.result.map Node.spelling = .ok ["1", "+", "2"] := by
  decide +kernel

end LineArithmetic.Parser
