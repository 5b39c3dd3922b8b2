import LineArithmetic.Proofs.Compilation
import LineArithmetic.Proofs.Evaluation

/-!
# Evaluating a line in one pass

A line can be evaluated without a tree: its tokens are read once from the
right, and all that is kept is a number and, at most, one operator.  `Pass` is
the state of this reading and `Pass.read` its step.

* `Pass.run_tokens`: over a chain the pass ends with the value of the chain.
* `Pass.exists_chain_of_run`: it ends with a value over nothing else.
* `Pass.exists_run_eq`: in front of a value only the value matters, not what
  it was computed from.
-/

namespace LineArithmetic

/-- What a pass over a line from its end has found. -/
inductive Pass where
  /-- Nothing was read yet. -/
  | start
  /-- A number, or a chain that was computed. -/
  | value (v : Number)
  /-- An operator in front of what was computed. -/
  | operator (op : String) (v : Number)
  /-- Tokens that no chain ends with. -/
  | stuck
  deriving DecidableEq, Repr

namespace Pass

/-- Reads a number: the first one is kept, and any further one is combined with
what was computed. -/
def readNumber (n : Number) : Pass → Pass
  | start => value n
  | operator op v =>
    match operation? op with
    | some f => value (.ofBinary64 (v.isInt && n.isInt) (f v.toBinary64 n.toBinary64))
    | none => stuck
  | value _ | stuck => stuck

/-- Reads an operator. -/
def readOperator (op : String) : Pass → Pass
  | value v => operator op v
  | start | operator _ _ | stuck => stuck

/-- One token further to the left. -/
def read (t : Token) (p : Pass) : Pass :=
  match t.kind with
  | .number =>
    match Number.ofLiteral? t.text with
    | some n => p.readNumber n
    | none => stuck
  | .operator => p.readOperator t.text
  | .unknown => stuck

/-- Reads tokens from the last one to the first one. -/
def run (tokens : List Token) (p : Pass) : Pass :=
  tokens.foldr read p

/-- The value that a pass has found, if nothing is left open. -/
def value? : Pass → Option Number
  | value v => some v
  | start | operator _ _ | stuck => none

end Pass

/-- The value of tokens in one pass from the right. -/
def streamedValue (tokens : List Token) : Option Number :=
  (Pass.run tokens .start).value?

namespace Pass

/-! ## Steps -/

theorem run_nil (p : Pass) : run [] p = p := rfl

theorem run_append (left right : List Token) (p : Pass) :
    run (left ++ right) p = run left (run right p) :=
  List.foldr_append

theorem run_cons (t : Token) (tokens : List Token) (p : Pass) :
    run (t :: tokens) p = (run tokens p).read t := rfl

theorem read_literal (n : Literal) (p : Pass) : p.read n.token = p.readNumber n.value := by
  simp only [read, Literal.token, n.ofLiteral?_text]

theorem read_operator (op : Operator) (p : Pass) :
    p.read op.token = p.readOperator op.symbol := rfl

theorem readOperator_value (op : String) (v : Number) :
    (value v).readOperator op = operator op v := rfl

/-- An operator and a literal in front of a value are applied to it. -/
theorem readNumber_operator (op : Operator) (n v : Number) :
    (operator op.symbol v).readNumber n = value (op.combine v n) := by
  rw [readNumber, op.operation?_symbol]
  rfl

theorem read_stuck (t : Token) : stuck.read t = stuck := by
  unfold read
  split
  · split <;> rfl
  · rfl
  · rfl

/-- Nothing is found behind tokens that no chain ends with. -/
theorem run_stuck (tokens : List Token) : run tokens stuck = stuck := by
  induction tokens with
  | nil => rfl
  | cons t tokens ih => rw [run_cons, ih, read_stuck]

/-- A pass that takes no operator takes a number or nothing. -/
theorem read_of_kind_ne_number {t : Token} {p : Pass} (h : t.kind ≠ .number)
    (hp : ∀ op, p.readOperator op = stuck) : p.read t = stuck := by
  unfold read
  split
  · exact absurd ‹_› h
  · exact hp t.text
  · rfl

theorem read_value {t : Token} (h : t.kind ≠ .operator) (v : Number) :
    (value v).read t = stuck := by
  unfold read
  split
  · split <;> rfl
  · exact absurd ‹_› h
  · rfl

/-! ## Passes over chains -/

/-- Over a chain the pass computes the value of the chain. -/
theorem run_tokens (c : Chain) : run c.tokens start = value c.value := by
  induction c with
  | last n => exact read_literal n start
  | link n op rest ih =>
    rw [Chain.tokens, run_cons, run_cons, ih, read_operator, read_literal]
    exact readNumber_operator op n.value rest.value

/-- A pass that ends with a value has read a chain. -/
theorem exists_chain_of_run {tokens : List Token} {v : Number} (h : Scan tokens)
    (hv : run tokens start = value v) : ∃ c : Chain, c.tokens = tokens := by
  cases h with
  | complete c => exact ⟨c, rfl⟩
  | noNumber before hkind =>
    have hstuck := read_of_kind_ne_number hkind (p := start) fun _ => rfl
    rw [run_append, run_cons, run_nil, hstuck, run_stuck] at hv
    cases hv
  | noOperator before hkind c =>
    rw [run_append, run_cons, run_tokens, read_value hkind, run_stuck] at hv
    cases hv
  | noOperand op c =>
    rw [run_cons, run_tokens, read_operator] at hv
    cases hv
  | wrongOperand before hkind op c =>
    have hstuck := read_of_kind_ne_number hkind (p := operator op.symbol c.value) fun _ => rfl
    rw [run_append, run_cons, run_cons, run_tokens, read_operator, readOperator_value, hstuck,
      run_stuck] at hv
    cases hv

/-- In front of a value, literals and operators that take turns lead to a value
again.  What the first value was computed from does not matter. -/
theorem exists_run_eq : ∀ {before : List Token}, (∀ t ∈ before, t.IsClassified) →
    before.length % 2 = 0 → FitsBelow before before.length → ∀ v : Number,
    ∃ w : Number, run before (value v) = value w
  | [], _, _, _, v => ⟨v, rfl⟩
  | [t], _, heven, _, _ => absurd heven (by simp)
  | t :: o :: before, hclass, heven, hfits, v => by
    obtain ⟨n, op, rfl, rfl, hrestFits, hrestClass⟩ := hfits.exists_link hclass
    have hrestEven : before.length % 2 = 0 := by
      simp only [List.length_cons] at heven
      omega
    obtain ⟨u, hu⟩ := exists_run_eq hrestClass hrestEven hrestFits v
    refine ⟨op.combine u n.value, ?_⟩
    rw [run_cons, run_cons, hu, read_operator, read_literal]
    exact readNumber_operator op n.value u

end Pass

/-! ## Lines -/

/-- Whether a line compiles to an expression that evaluates to a number. -/
def LineHasValue (line : String) (number : Int) (v : Number) : Prop :=
  ∃ node, (compileLine line number).result = .ok node ∧ node.IsExpression ∧
    node.eval = .ok (.number v)

section Lines

variable {line : String} {number : Int} {v : Number}

theorem streamedValue_eq_some_iff {tokens : List Token} :
    streamedValue tokens = some v ↔ Pass.run tokens .start = .value v := by
  unfold streamedValue
  cases Pass.run tokens .start <;> simp [Pass.value?]

theorem streamedValue_tokens (c : Chain) : streamedValue c.tokens = some c.value :=
  streamedValue_eq_some_iff.mpr (Pass.run_tokens c)

/-- Only tokens that alternate have a value in one pass. -/
theorem streamedValue_eq_none (h : ¬ Alternates (lineTokens (some line))) :
    streamedValue (lineTokens (some line)) = none := by
  by_cases hnil : lineTokens (some line) = []
  · rw [hnil]
    rfl
  · by_contra hne
    obtain ⟨v, hv⟩ := Option.ne_none_iff_exists'.mp hne
    have hscan := scan hnil fun t => isClassified_of_mem_lineTokens
    obtain ⟨c, hc⟩ := Pass.exists_chain_of_run hscan (streamedValue_eq_some_iff.mp hv)
    exact h (hc ▸ c.alternates_tokens)

theorem lineHasValue_iff :
    LineHasValue line number v ↔ streamedValue (lineTokens (some line)) = some v := by
  constructor
  · rintro ⟨node, hresult, hnode, heval⟩
    obtain ⟨c, hc, rfl⟩ := exists_chain_of_isExpression hresult hnode
    rw [c.eval_tree] at heval
    rw [← hc, streamedValue_tokens, Value.number.inj (Except.ok.inj heval)]
  · intro hv
    have halternates : Alternates (lineTokens (some line)) := by
      by_contra hnot
      rw [streamedValue_eq_none hnot] at hv
      cases hv
    obtain ⟨c, hc⟩ := halternates.exists_chain fun t => isClassified_of_mem_lineTokens
    rw [← hc, streamedValue_tokens] at hv
    refine ⟨c.tree, congrArg Parser.Step.result (compileLine_chain line number hc.symm),
      c.isExpression_tree, ?_⟩
    rw [c.eval_tree, Option.some.inj hv]

end Lines

/-- A line that compiles to an expression evaluates to the value that one pass
over its tokens finds, and the pass finds none for any other line.  Two ends of
lines with one value are exchangeable, whatever the numbers of the lines: behind
the same literals and operators they give one value again. -/
theorem eval_streamed :
    (∀ (line : String) (number : Int), ∃ node, (compileLine line number).result = .ok node ∧
      (node.IsExpression → ∃ v, streamedValue (lineTokens (some line)) = some v ∧
        node.eval = .ok (.number v)) ∧
      (¬ node.IsExpression → streamedValue (lineTokens (some line)) = none)) ∧
    ∀ (before : List Token) (line line' rest rest' : String) (m m' : Int) (v : Number),
      before.length % 2 = 0 → FitsBelow before before.length →
      lineTokens (some line) = before ++ lineTokens (some rest) →
      lineTokens (some line') = before ++ lineTokens (some rest') →
      LineHasValue rest m v → LineHasValue rest' m' v →
      ∃ w, ∀ number : Int, LineHasValue line number w ∧ LineHasValue line' number w := by
  constructor
  · intro line number
    obtain ⟨node, hresult⟩ := exists_compileLine_eq line number
    refine ⟨node, hresult, fun hnode => ?_, fun hnot => streamedValue_eq_none fun h => ?_⟩
    · obtain ⟨c, hc, rfl⟩ := exists_chain_of_isExpression hresult hnode
      exact ⟨c.value, by rw [← hc, streamedValue_tokens], c.eval_tree⟩
    · obtain ⟨c, hc⟩ := h.exists_chain fun t => isClassified_of_mem_lineTokens
      have htree := congrArg Parser.Step.result (compileLine_chain line number hc.symm)
      rw [hresult] at htree
      exact hnot (Except.ok.inj htree ▸ c.isExpression_tree)
  · intro before line line' rest rest' m m' v heven hfits hline hline' hrest hrest'
    rw [lineHasValue_iff, streamedValue_eq_some_iff] at hrest hrest'
    have hclass : ∀ t ∈ before, t.IsClassified := fun t ht =>
      isClassified_of_mem_lineTokens (hline ▸ List.mem_append_left _ ht)
    obtain ⟨w, hw⟩ := Pass.exists_run_eq hclass heven hfits v
    refine ⟨w, fun number => ⟨?_, ?_⟩⟩
    · rw [lineHasValue_iff, streamedValue_eq_some_iff, hline, Pass.run_append, hrest, hw]
    · rw [lineHasValue_iff, streamedValue_eq_some_iff, hline', Pass.run_append, hrest', hw]

/-- A quotient and the integer that it is can be exchanged in a line. -/
theorem eval_exchanged :
    LineHasValue "2 / 4" 1 (.int 2) ∧ LineHasValue "2" 1 (.int 2) ∧
      LineHasValue "10 - 2 / 4" 1 (.int (-8)) ∧ LineHasValue "10 - 2" 1 (.int (-8)) := by
  have hquotient : LineHasValue "2 / 4" 1 (.int 2) := lineHasValue_iff.mpr (by decide +kernel)
  have hinteger : LineHasValue "2" 1 (.int 2) := lineHasValue_iff.mpr (by decide +kernel)
  have hdifference : LineHasValue "10 - 2" 1 (.int (-8)) :=
    lineHasValue_iff.mpr (by decide +kernel)
  have hfits : FitsBelow (lineTokens (some "10 -")) 2 := by
    intro i t hi ht
    match i, ht with
    | 0, rfl => rfl
    | 1, rfl => rfl
  obtain ⟨w, hlines⟩ := eval_streamed.2 (lineTokens (some "10 -")) "10 - 2 / 4" "10 - 2"
    "2 / 4" "2" 1 1 (.int 2) (by decide) hfits (by decide) (by decide) hquotient hinteger
  obtain ⟨hw, hw'⟩ := hlines 1
  have hsame : some w = some (.int (-8)) :=
    (lineHasValue_iff.mp hw').symm.trans (lineHasValue_iff.mp hdifference)
  rw [Option.some.inj hsame] at hw
  exact ⟨hquotient, hinteger, hw, hdifference⟩

end LineArithmetic
