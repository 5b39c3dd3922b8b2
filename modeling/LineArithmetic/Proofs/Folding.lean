import LineArithmetic.Parser
import LineArithmetic.Proofs.Chain

/-!
# One fold

What a fold does to the tree that was accumulated.  `FoldEffect` lists the outcomes,
each with the condition under which it comes about, and `fold_effect` says that there
are no others.  Whatever a fold leaves alone is read off this list: the stack, the
number of the line, and all tokens but the last one that is left.
-/

namespace LineArithmetic.Parser

/-- A text that denotes a number has a tree. -/
theorem ofLiteral_of_read? {literal : String} {x : Binary64} (h : Binary64.read? literal = some x) :
    ∃ numeral : Numeral, numeral.literal = literal ∧
      Node.ofLiteral literal = .ok (.number numeral) := by
  have hvalue : Number.ofLiteral? literal =
      some (.ofBinary64 (!literal.toList.contains '.') x) := by
    rw [Number.ofLiteral?, h, Option.map_some]
  have hnumeral := Numeral.ofLiteral?_literal ⟨literal, _, hvalue⟩
  refine ⟨⟨literal, _, hvalue⟩, rfl, ?_⟩
  rw [Node.ofLiteral, hnumeral]

theorem ofLiteral_of_read?_eq_none {literal : String} (h : Binary64.read? literal = none) :
    Node.ofLiteral literal = .error (.unreadableNumber literal) := by
  have hvalue : Number.ofLiteral? literal = none := by
    rw [Number.ofLiteral?, h, Option.map_none]
  have hnumeral : Numeral.ofLiteral? literal = none := by
    unfold Numeral.ofLiteral?
    split
    · rename_i value hsome
      rw [hvalue] at hsome
      cases hsome
    · rfl
  rw [Node.ofLiteral, hnumeral]

/-- A literal has a tree, or it is the fault of its text. -/
theorem ofLiteral_cases (literal : String) :
    (∃ numeral, Node.ofLiteral literal = .ok (.number numeral)) ∨
      Node.ofLiteral literal = .error (.unreadableNumber literal) := by
  unfold Node.ofLiteral
  split
  · exact Or.inl ⟨_, rfl⟩
  · exact Or.inr rfl

/-! ## Folding an expression -/

section Expression

variable {p : Parser} {acc : Node} {op operand : Token} {rest : List Token}

theorem kind_of_isExpression (h : acc.IsExpression) :
    acc.kind = .ok .number ∨ acc.kind = .ok .binary := by
  cases acc with
  | number numeral => exact Or.inl rfl
  | binary op left right => exact Or.inr rfl
  | void | diagnostic | foreign => exact h.elim

theorem not_isExpression_of_kind {fault : Fault} (h : acc.kind = .error fault) :
    ¬ acc.IsExpression := by
  intro hacc
  rcases kind_of_isExpression hacc with hk | hk <;> rw [h] at hk <;> cases hk

/-- What stands where an operator is expected is not taken with it. -/
theorem fold_no_operator (hacc : acc.IsExpression) (hop : op.kind ≠ .operator) :
    p.fold acc op = p.fail .invalidToken anOperator op.text [] := by
  rcases kind_of_isExpression hacc with h | h <;> simp [fold, h, hop]

theorem fold_no_operand (hacc : acc.IsExpression) (hop : op.kind = .operator)
    (hp : p.pending = []) : p.fold acc op = p.fail .incompleteExpression aNumber "" [] := by
  rcases kind_of_isExpression hacc with h | h <;> simp [fold, h, hop, hp]

theorem fold_wrong_operand (hacc : acc.IsExpression) (hop : op.kind = .operator)
    (hp : p.pending = operand :: rest) (hoperand : operand.kind ≠ .number) :
    p.fold acc op = fail { p with pending := rest } .invalidToken aNumber operand.text [] := by
  rcases kind_of_isExpression hacc with h | h <;> simp [fold, h, hop, hp, hoperand]

theorem fold_unreadable (hacc : acc.IsExpression) (hop : op.kind = .operator)
    (hp : p.pending = operand :: rest) (hoperand : operand.kind = .number) {fault : Fault}
    (hliteral : Node.ofLiteral operand.text = .error fault) :
    p.fold acc op = ⟨.error fault, { p with pending := rest }, []⟩ := by
  rcases kind_of_isExpression hacc with h | h <;> simp [fold, h, hop, hp, hoperand, hliteral]

/-- An operator and a number are folded into an operation. -/
theorem fold_operation (hacc : acc.IsExpression) (hop : op.kind = .operator)
    (hp : p.pending = operand :: rest) (hoperand : operand.kind = .number) {right : Node}
    (hliteral : Node.ofLiteral operand.text = .ok right) :
    p.fold acc op = ⟨.ok (.binary op.text acc right), { p with pending := rest }, []⟩ := by
  rcases kind_of_isExpression hacc with h | h <;> simp [fold, h, hop, hp, hoperand, hliteral]

end Expression

/-! ## All outcomes -/

/-- The outcomes of a fold.  No two of their conditions can hold together. -/
inductive FoldEffect (p : Parser) (acc : Node) (op : Token) : Step → Prop where
  /-- What is folded has no kind. -/
  | foreign {fault : Fault} (h : acc.kind = .error fault) :
      FoldEffect p acc op ⟨.error fault, p, []⟩
  /-- A diagnostic is handed on. -/
  | diagnostic {d : Diagnostic} (h : acc = .diagnostic d) :
      FoldEffect p acc op ⟨.ok (.diagnostic d), p, []⟩
  /-- There is nothing to fold, which is reported. -/
  | void (h : acc = .void) : FoldEffect p acc op
      (p.fail .invalidStack "a number or an operation" "VOID" [invariantReport p.line .void])
  | noOperator (hacc : acc.IsExpression) (hop : op.kind ≠ .operator) :
      FoldEffect p acc op (p.fail .invalidToken anOperator op.text [])
  | noOperand (hacc : acc.IsExpression) (hop : op.kind = .operator) (hp : p.pending = []) :
      FoldEffect p acc op (p.fail .incompleteExpression aNumber "" [])
  | wrongOperand {operand : Token} {rest : List Token} (hacc : acc.IsExpression)
      (hop : op.kind = .operator) (hp : p.pending = operand :: rest)
      (hoperand : operand.kind ≠ .number) : FoldEffect p acc op
        (fail { p with pending := rest } .invalidToken aNumber operand.text [])
  /-- The operand is classed as a number but cannot be read as one. -/
  | unreadable {operand : Token} {rest : List Token} (hacc : acc.IsExpression)
      (hop : op.kind = .operator) (hp : p.pending = operand :: rest)
      (hoperand : operand.kind = .number)
      (hliteral : Node.ofLiteral operand.text = .error (.unreadableNumber operand.text)) :
      FoldEffect p acc op
        ⟨.error (.unreadableNumber operand.text), { p with pending := rest }, []⟩
  | operation {operand : Token} {rest : List Token} {numeral : Numeral}
      (hacc : acc.IsExpression) (hop : op.kind = .operator) (hp : p.pending = operand :: rest)
      (hoperand : operand.kind = .number)
      (hliteral : Node.ofLiteral operand.text = .ok (.number numeral)) :
      FoldEffect p acc op
        ⟨.ok (.binary op.text acc (.number numeral)), { p with pending := rest }, []⟩

theorem foldEffect_expression {acc : Node} (hacc : acc.IsExpression) (p : Parser) (op : Token) :
    FoldEffect p acc op (p.fold acc op) := by
  by_cases hop : op.kind = .operator
  · cases hp : p.pending with
    | nil =>
      rw [fold_no_operand hacc hop hp]
      exact .noOperand hacc hop hp
    | cons operand rest =>
      by_cases hoperand : operand.kind = .number
      · rcases ofLiteral_cases operand.text with ⟨numeral, hliteral⟩ | hliteral
        · rw [fold_operation hacc hop hp hoperand hliteral]
          exact .operation hacc hop hp hoperand hliteral
        · rw [fold_unreadable hacc hop hp hoperand hliteral]
          exact .unreadable hacc hop hp hoperand hliteral
      · rw [fold_wrong_operand hacc hop hp hoperand]
        exact .wrongOperand hacc hop hp hoperand
  · rw [fold_no_operator hacc hop]
    exact .noOperator hacc hop

/-- A fold has one of the outcomes of the list. -/
theorem fold_effect (p : Parser) (acc : Node) (op : Token) :
    FoldEffect p acc op (p.fold acc op) := by
  cases acc with
  | void => exact .void rfl
  | number numeral =>
    have hacc : (Node.number numeral).IsExpression := trivial
    exact foldEffect_expression hacc p op
  | binary symbol left right =>
    have hacc : (Node.binary symbol left right).IsExpression := trivial
    exact foldEffect_expression hacc p op
  | diagnostic d => exact .diagnostic rfl
  | foreign leaf => exact .foreign rfl

/-! ## What a fold leaves alone -/

section Effect

variable {p : Parser} {acc : Node} {op : Token} {step : Step}

theorem FoldEffect.stack_eq (h : FoldEffect p acc op step) : step.parser.stack = p.stack := by
  cases h <;> rfl

theorem FoldEffect.line_eq (h : FoldEffect p acc op step) : step.parser.line = p.line := by
  cases h <;> rfl

/-- A fold takes at most the last token that is left. -/
theorem FoldEffect.pending_suffix (h : FoldEffect p acc op step) :
    step.parser.pending <:+ p.pending := by
  cases h with
  | foreign | diagnostic | void | noOperator | noOperand => exact List.suffix_rfl
  | wrongOperand _ _ hp | unreadable _ _ hp | operation _ _ hp =>
    rw [hp]
    exact List.suffix_cons _ _

/-- Onto an expression nothing is reported, and a tree that comes out is an expression or
a diagnostic. -/
theorem FoldEffect.of_isExpression (h : FoldEffect p acc op step) (hacc : acc.IsExpression) :
    step.records = [] ∧ ∀ node, step.result = .ok node →
      node.IsExpression ∨ ∃ d, node = .diagnostic d := by
  cases h with
  | foreign h => exact absurd hacc (not_isExpression_of_kind h)
  | diagnostic h => exact (h ▸ hacc).elim
  | void h => exact (h ▸ hacc).elim
  | noOperator | noOperand | wrongOperand =>
    exact ⟨rfl, fun node hresult => Or.inr ⟨_, (Except.ok.inj hresult).symm⟩⟩
  | unreadable => exact ⟨rfl, nofun⟩
  | operation => exact ⟨rfl, fun node hresult => Or.inl (Except.ok.inj hresult ▸ trivial)⟩

/-- A token is taken exactly if an operator meets an expression and one is left. -/
theorem FoldEffect.exists_taken (h : FoldEffect p acc op step) :
    ∃ taken : Option Token, p.remaining = step.parser.remaining ++ taken.toList ∧
      (taken.isSome = true ↔ acc.IsExpression ∧ op.kind = .operator ∧ p.remaining ≠ []) := by
  unfold remaining
  cases h with
  | foreign h =>
    have hacc := not_isExpression_of_kind h
    exact ⟨none, by simp, by simp [hacc]⟩
  | diagnostic h | void h =>
    have hacc : ¬ acc.IsExpression := h ▸ id
    exact ⟨none, by simp [fail], by simp [hacc]⟩
  | noOperator hacc hop => exact ⟨none, by simp [fail], by simp [hop]⟩
  | noOperand hacc hop hp => exact ⟨none, by simp [fail], by simp [hp]⟩
  | @wrongOperand operand _ hacc hop hp | @unreadable operand _ hacc hop hp
  | @operation operand _ _ hacc hop hp =>
    exact ⟨some operand, by simp [hp, fail], by simp [hacc, hop, hp]⟩

/-- Only a fold of nothing is reported. -/
theorem FoldEffect.records_eq_nil (h : FoldEffect p acc op step) (hacc : acc ≠ .void) :
    step.records = [] := by
  cases h with
  | void h => exact absurd h hacc
  | foreign | diagnostic | noOperator | noOperand | wrongOperand | unreadable | operation => rfl

/-- A diagnostic that comes out was folded, or is about the line of the parser. -/
theorem FoldEffect.line_of_diagnostic {d : Diagnostic} (h : FoldEffect p acc op step)
    (hresult : step.result = .ok (.diagnostic d)) : acc = .diagnostic d ∨ d.line = p.line := by
  cases h with
  | foreign | unreadable => cases hresult
  | operation => cases Except.ok.inj hresult
  | diagnostic h =>
    obtain rfl := Node.diagnostic.inj (Except.ok.inj hresult)
    exact Or.inl h
  | void | noOperator | noOperand | wrongOperand =>
    obtain rfl := Node.diagnostic.inj (Except.ok.inj hresult)
    exact Or.inr rfl

end Effect

section Outcome

variable {p : Parser} {acc : Node} {op operand : Token} {rest : List Token}

/-- What comes of an expression, an operator and what stands in front of it. -/
theorem result_fold_operand (hacc : acc.IsExpression) (hop : op.kind = .operator)
    (hp : p.remaining = rest ++ [operand]) :
    (operand.kind ≠ .number → (p.fold acc op).result =
      .ok (.diagnostic ⟨.invalidToken, "a number literal", operand.text, p.line⟩)) ∧
    (operand.kind = .number →
      (∀ x, Binary64.read? operand.text = some x → ∃ numeral : Numeral,
        numeral.literal = operand.text ∧
        (p.fold acc op).result = .ok (.binary op.text acc (.number numeral))) ∧
      (Binary64.read? operand.text = none →
        (p.fold acc op).result = .error (.unreadableNumber operand.text))) := by
  have hpending : p.pending = operand :: rest.reverse := by
    rw [← List.reverse_reverse p.pending]
    exact (congrArg List.reverse hp).trans List.reverse_concat
  refine ⟨fun hoperand => ?_, fun hoperand => ⟨fun x hread => ?_, fun hread => ?_⟩⟩
  · rw [fold_wrong_operand hacc hop hpending hoperand]
    rfl
  · obtain ⟨numeral, hliteral, hmade⟩ := ofLiteral_of_read? hread
    refine ⟨numeral, hliteral, ?_⟩
    rw [fold_operation hacc hop hpending hoperand hmade]
  · rw [fold_unreadable hacc hop hpending hoperand (ofLiteral_of_read?_eq_none hread)]

end Outcome

/-- What a fold does, whatever the parser, the tree and the token.  The stack and the line
stay as they are, and the last token that is left is taken exactly if the tree is an
expression and the token an operator.  A diagnostic is handed on.  That there is no tree is
told and reported, and nothing else is reported.  Onto an expression the first misfit is
told: of the operator, that no operand is left, of the operand.  Else an operation is made,
unless the text of the operand denotes no number.  What is told anew is about the line of
the parser. -/
theorem fold_outcome (p : Parser) (acc : Node) (op : Token) :
    (p.fold acc op).parser.stack = p.stack ∧ (p.fold acc op).parser.line = p.line ∧
    (∃ taken : Option Token,
      p.remaining = (p.fold acc op).parser.remaining ++ taken.toList ∧
      (taken.isSome = true ↔ acc.IsExpression ∧ op.kind = .operator ∧ p.remaining ≠ [])) ∧
    (∀ d, acc = .diagnostic d → (p.fold acc op).result = .ok acc) ∧
    (acc = .void →
      (p.fold acc op).result =
        .ok (.diagnostic ⟨.invalidStack, "a number or an operation", "VOID", p.line⟩) ∧
      ∃ record : Log.Record, (p.fold acc op).records = [record] ∧ record.level = .error ∧
        record.source = .parser) ∧
    (acc ≠ .void → (p.fold acc op).records = []) ∧
    (acc.IsExpression → op.kind ≠ .operator → (p.fold acc op).result =
      .ok (.diagnostic ⟨.invalidToken, "an operation token", op.text, p.line⟩)) ∧
    (acc.IsExpression → op.kind = .operator → p.remaining = [] → (p.fold acc op).result =
      .ok (.diagnostic ⟨.incompleteExpression, "a number literal", "", p.line⟩)) ∧
    (∀ rest operand, acc.IsExpression → op.kind = .operator → p.remaining = rest ++ [operand] →
      (operand.kind ≠ .number → (p.fold acc op).result =
        .ok (.diagnostic ⟨.invalidToken, "a number literal", operand.text, p.line⟩)) ∧
      (operand.kind = .number →
        (∀ x, Binary64.read? operand.text = some x → ∃ numeral : Numeral,
          numeral.literal = operand.text ∧
          (p.fold acc op).result = .ok (.binary op.text acc (.number numeral))) ∧
        (Binary64.read? operand.text = none →
          (p.fold acc op).result = .error (.unreadableNumber operand.text)))) ∧
    ∀ d, (p.fold acc op).result = .ok (.diagnostic d) → acc = .diagnostic d ∨ d.line = p.line := by
  have heffect := fold_effect p acc op
  refine ⟨heffect.stack_eq, heffect.line_eq, heffect.exists_taken, ?_, ?_, heffect.records_eq_nil,
    ?_, ?_, fun rest operand => result_fold_operand, fun d => heffect.line_of_diagnostic⟩
  · rintro d rfl
    rfl
  · rintro rfl
    exact ⟨rfl, _, rfl, rfl, rfl⟩
  · intro hacc hop
    rw [fold_no_operator hacc hop]
    rfl
  · intro hacc hop hp
    rw [fold_no_operand hacc hop (List.reverse_eq_nil_iff.mp hp)]
    rfl

def eightLiteral : Literal := ⟨"8", by decide⟩

/-- A parser whose next token is classed as a number, though its text denotes none. -/
def misclassed : Parser := ⟨[⟨.number, "one"⟩, ⟨.operator, "+"⟩], [.void], 7⟩

/-- A multiplication of that number. -/
def misclassedStep : Step :=
  misclassed.fold (.number eightLiteral.numeral) ⟨.operator, "*"⟩

/-- The token is taken, and then it is the fault of its text. -/
theorem fold_misclassed :
    misclassedStep.result = .error (.unreadableNumber "one") ∧
      misclassedStep.parser.remaining = [⟨.operator, "+"⟩] ∧ misclassedStep.records = [] := by
  obtain ⟨-, -, ⟨taken, hremaining, htaken⟩, -, -, hrecords, -, -, hoperand, -⟩ :=
    fold_outcome misclassed (.number eightLiteral.numeral) ⟨.operator, "*"⟩
  have hleft : misclassed.remaining = [⟨.operator, "+"⟩] ++ [⟨.number, "one"⟩] := by decide
  have hread : Binary64.read? "one" = none := by decide +kernel
  obtain ⟨token, rfl⟩ : ∃ token, taken = some token :=
    Option.isSome_iff_exists.mp (htaken.mpr ⟨trivial, rfl, by decide⟩)
  rw [hleft] at hremaining
  obtain ⟨-, hnumber⟩ := hoperand _ _ trivial rfl hleft
  refine ⟨(hnumber rfl).2 hread, ?_, hrecords (by decide)⟩
  exact (List.append_inj_left' hremaining rfl).symm

end LineArithmetic.Parser
