import LineArithmetic.Evaluation
import LineArithmetic.Proofs.Literal

/-!
# Chains

A line that compiles is a chain `n₀ o₁ n₁ … oₖ nₖ` of literals with operators
between them.  `Chain` is the syntax of these lines, in the order in which
they are read, and `Chain.tree` is the tree that they stand for: the rest of
the line becomes the left operand, so the last literal is the innermost one.

`Alternates` says the same of a list of tokens by their positions alone: the
tokens of a chain alternate (`Chain.alternates_tokens`), and classified tokens
that alternate are those of a chain (`Alternates.exists_chain`).  `Scan` says
where a scan from the end of any line stops.
-/

namespace LineArithmetic

/-! ## Operators -/

/-- The four operators. -/
inductive Operator where
  | plus
  | minus
  | times
  | divide
  deriving DecidableEq, Repr

namespace Operator

def symbol : Operator → String
  | plus => "+"
  | minus => "-"
  | times => "*"
  | divide => "/"

/-- What an operator computes. -/
def apply : Operator → Binary64 → Binary64 → Binary64
  | plus => Binary64.add
  | minus => Binary64.sub
  | times => Binary64.mul
  | divide => Binary64.div

/-- The token of an operator. -/
def token (op : Operator) : Token :=
  ⟨.operator, op.symbol⟩

theorem token_injective {op op' : Operator} (h : op.token = op'.token) : op = op' := by
  cases op <;> cases op' <;> first | rfl | exact absurd h (by decide)

theorem operation?_symbol (op : Operator) : operation? op.symbol = some op.apply := by
  cases op <;> rfl

end Operator

namespace Token

/-- A token whose class is that of its text. -/
def IsClassified (t : Token) : Prop :=
  t.kind = kindOf t.text

theorem isClassified_classify (text : String) : (classify text).IsClassified := rfl

/-- The number tokens are those of literals. -/
theorem IsClassified.exists_literal {t : Token} (hclass : t.IsClassified)
    (h : t.kind = .number) : ∃ n : Literal, n.token = t := by
  obtain ⟨kind, text⟩ := t
  obtain rfl : kind = .number := h
  exact ⟨⟨text, isNumberLiteral_iff.mpr hclass.symm⟩, rfl⟩

/-- The operator tokens are those of the four operators. -/
theorem IsClassified.exists_operator {t : Token} (hclass : t.IsClassified)
    (h : t.kind = .operator) : ∃ op : Operator, op.token = t := by
  obtain ⟨kind, text⟩ := t
  obtain rfl : kind = .operator := h
  have hmem : text ∈ operators := kindOf_eq_operator_iff.mp hclass.symm
  rcases mem_operators_iff.mp hmem with rfl | rfl | rfl | rfl
  · exact ⟨.plus, rfl⟩
  · exact ⟨.minus, rfl⟩
  · exact ⟨.times, rfl⟩
  · exact ⟨.divide, rfl⟩

end Token

/-! ## Trees of expressions -/

namespace Node

/-- A number or an operation. -/
def IsExpression : Node → Prop
  | number _ | binary .. => True
  | _ => False

/-- The literals and operators of a tree in the order in which a line spells
them. -/
def spelling : Node → List String
  | number numeral => [numeral.literal]
  | binary op left right => spelling right ++ op :: spelling left
  | _ => []

end Node

/-! ## Chains -/

/-- The syntax of the lines that compile, read from the left. -/
inductive Chain where
  | last (n : Literal)
  | link (n : Literal) (op : Operator) (rest : Chain)

namespace Chain

/-- The tokens of a chain. -/
def tokens : Chain → List Token
  | last n => [n.token]
  | link n op rest => n.token :: op.token :: tokens rest

/-- The tree of a chain. -/
def tree : Chain → Node
  | last n => .number n.numeral
  | link n op rest => .binary op.symbol (tree rest) (.number n.numeral)

/-- The literals of a chain. -/
def literals : Chain → List Literal
  | last n => [n]
  | link n _ rest => n :: literals rest

/-- The chains that a chain ends with, itself included. -/
def suffixes : Chain → List Chain
  | last n => [last n]
  | link n op rest => link n op rest :: suffixes rest

theorem isExpression_tree (c : Chain) : c.tree.IsExpression := by
  cases c <;> trivial

theorem mem_suffixes_self (c : Chain) : c ∈ c.suffixes := by
  cases c <;> exact List.mem_cons_self

/-- A chain is determined by its tokens. -/
theorem tokens_injective : ∀ {c d : Chain}, c.tokens = d.tokens → c = d
  | last n, last m, h => by
    rw [Literal.token_injective (List.cons.inj h).1]
  | last n, link m op rest, h => by simp [tokens] at h
  | link n op rest, last m, h => by simp [tokens] at h
  | link n op rest, link m op' rest', h => by
    obtain ⟨hn, htail⟩ := List.cons.inj h
    obtain ⟨hop, hrest⟩ := List.cons.inj htail
    rw [Literal.token_injective hn, Operator.token_injective hop, tokens_injective hrest]

/-- No token of a chain is lost in its tree, nor moved, nor doubled. -/
theorem spelling_tree (c : Chain) : c.tree.spelling = c.tokens.map Token.text := by
  induction c with
  | last n => rfl
  | link n op rest ih =>
    simp only [tree, Node.spelling, ih, tokens, List.map_cons]
    rfl

end Chain

/-! ## Alternating tokens -/

/-- The class that a token must have at a position, counted from either end of
a chain. -/
def expectedKind (position : Nat) : Token.Kind :=
  if position % 2 = 0 then .number else .operator

/-- Whether all tokens below a position are of the expected class. -/
def FitsBelow (tokens : List Token) (bound : Nat) : Prop :=
  ∀ i t, i < bound → tokens[i]? = some t → t.kind = expectedKind i

/-- Whether numbers and operators take turns, with a number at both ends. -/
def Alternates (tokens : List Token) : Prop :=
  tokens.length % 2 = 1 ∧ FitsBelow tokens tokens.length

theorem expectedKind_add_two (position : Nat) :
    expectedKind (position + 2) = expectedKind position := by
  unfold expectedKind
  rw [Nat.add_mod_right]

/-- In a list of odd length a position is expected to hold the same class from
both ends. -/
theorem expectedKind_reverse {length position : Nat} (hodd : length % 2 = 1)
    (h : position < length) : expectedKind (length - 1 - position) = expectedKind position := by
  unfold expectedKind
  congr 1
  rw [eq_iff_iff]
  omega

theorem FitsBelow.append {left : List Token} (h : FitsBelow left left.length)
    (right : List Token) : FitsBelow (left ++ right) left.length := by
  intro i t hi ht
  rw [List.getElem?_append_left hi] at ht
  exact h i t hi ht

theorem FitsBelow.succ {tokens : List Token} {bound : Nat} {t : Token}
    (h : FitsBelow tokens bound) (ht : tokens[bound]? = some t)
    (hkind : t.kind = expectedKind bound) : FitsBelow tokens (bound + 1) := by
  intro i u hi hu
  rcases Nat.lt_succ_iff_lt_or_eq.mp hi with hlt | rfl
  · exact h i u hlt hu
  · rw [ht] at hu
    rwa [← Option.some.inj hu]

namespace Chain

theorem length_tokens_mod_two (c : Chain) : c.tokens.length % 2 = 1 := by
  induction c with
  | last n => rfl
  | link n op rest ih =>
    simp only [tokens, List.length_cons]
    omega

theorem fitsBelow_tokens (c : Chain) (bound : Nat) : FitsBelow c.tokens bound := by
  intro i t hi ht
  induction c generalizing i with
  | last n =>
    match i, ht with
    | 0, rfl => rfl
  | link n op rest ih =>
    match i, hi, ht with
    | 0, _, rfl => rfl
    | 1, _, rfl => rfl
    | i + 2, hi, ht =>
      rw [expectedKind_add_two]
      exact ih i (by omega) ht

/-- The tokens of a chain alternate. -/
theorem alternates_tokens (c : Chain) : Alternates c.tokens :=
  ⟨c.length_tokens_mod_two, c.fitsBelow_tokens _⟩

/-- They alternate from the right as well. -/
theorem fitsBelow_reverse_tokens (c : Chain) :
    FitsBelow c.tokens.reverse c.tokens.reverse.length := by
  intro i t hi ht
  rw [List.length_reverse] at hi
  rw [List.getElem?_reverse hi] at ht
  have hlt : c.tokens.length - 1 - i < c.tokens.length := by omega
  rw [← expectedKind_reverse c.length_tokens_mod_two hi]
  exact c.fitsBelow_tokens _ _ t hlt ht

end Chain

/-- Two tokens in front that fit are a literal and an operator, and the others
fit as well. -/
theorem FitsBelow.exists_link {t o : Token} {rest : List Token}
    (h : FitsBelow (t :: o :: rest) (t :: o :: rest).length)
    (hclass : ∀ u ∈ t :: o :: rest, u.IsClassified) :
    ∃ (n : Literal) (op : Operator), n.token = t ∧ op.token = o ∧
      FitsBelow rest rest.length ∧ ∀ u ∈ rest, u.IsClassified := by
  simp only [List.mem_cons, forall_eq_or_imp] at hclass
  obtain ⟨ht, ho, hrest⟩ := hclass
  obtain ⟨n, hn⟩ := ht.exists_literal (h 0 t (by simp) rfl)
  obtain ⟨op, hop⟩ := ho.exists_operator (h 1 o (by simp) rfl)
  refine ⟨n, op, hn, hop, fun i u hi hu => ?_, hrest⟩
  rw [← expectedKind_add_two]
  exact h (i + 2) u (by simpa using hi) hu

/-- Classified tokens that alternate are those of a chain. -/
theorem Alternates.exists_chain : ∀ {tokens : List Token},
    (∀ t ∈ tokens, t.IsClassified) → Alternates tokens → ∃ c : Chain, c.tokens = tokens
  | [], _, h => absurd h.1 (by decide)
  | [t], hclass, h => by
    obtain ⟨n, hn⟩ :=
      (hclass t List.mem_cons_self).exists_literal (h.2 0 t Nat.one_pos rfl)
    exact ⟨.last n, by rw [Chain.tokens, hn]⟩
  | t :: o :: rest, hclass, h => by
    obtain ⟨n, op, hn, hop, hfits, hrest⟩ := h.2.exists_link hclass
    have hodd : rest.length % 2 = 1 := by
      have hlength := h.1
      simp only [List.length_cons] at hlength
      omega
    obtain ⟨c, hc⟩ := Alternates.exists_chain hrest ⟨hodd, hfits⟩
    exact ⟨.link n op c, by rw [Chain.tokens, hn, hop, hc]⟩

/-! ## Scanning a line from its end -/

/-- Where a scan of a line from its end stops: behind a whole chain, or at the
first token that does not continue the chain to the right of it. -/
inductive Scan : List Token → Prop where
  /-- The whole line is a chain. -/
  | complete (c : Chain) : Scan c.tokens
  /-- The last token is no number. -/
  | noNumber (before : List Token) {t : Token} (h : t.kind ≠ .number) : Scan (before ++ [t])
  /-- In front of a chain stands no operator. -/
  | noOperator (before : List Token) {t : Token} (h : t.kind ≠ .operator) (c : Chain) :
      Scan (before ++ t :: c.tokens)
  /-- In front of an operator and a chain stands nothing. -/
  | noOperand (op : Operator) (c : Chain) : Scan (op.token :: c.tokens)
  /-- In front of an operator and a chain stands no number. -/
  | wrongOperand (before : List Token) {t : Token} (h : t.kind ≠ .number) (op : Operator)
      (c : Chain) : Scan (before ++ t :: op.token :: c.tokens)

/-- A scan stops no earlier if the line is longer on the left. -/
theorem Scan.cons {tokens : List Token} {t : Token} (ht : t.IsClassified)
    (h : Scan tokens) : Scan (t :: tokens) := by
  cases h with
  | complete c =>
    by_cases hkind : t.kind = .operator
    · obtain ⟨op, rfl⟩ := ht.exists_operator hkind
      exact .noOperand op c
    · exact .noOperator [] hkind c
  | noNumber before hbad => exact .noNumber (t :: before) hbad
  | noOperator before hbad c => exact .noOperator (t :: before) hbad c
  | noOperand op c =>
    by_cases hkind : t.kind = .number
    · obtain ⟨n, rfl⟩ := ht.exists_literal hkind
      exact .complete (.link n op c)
    · exact .wrongOperand [] hkind op c
  | wrongOperand before hbad op c => exact .wrongOperand (t :: before) hbad op c

/-- Every line with a token is scanned up to one of these places. -/
theorem scan : ∀ {tokens : List Token}, tokens ≠ [] → (∀ t ∈ tokens, t.IsClassified) →
    Scan tokens
  | [], hne, _ => absurd rfl hne
  | [t], _, hclass => by
    by_cases hkind : t.kind = .number
    · obtain ⟨n, rfl⟩ := (hclass t List.mem_cons_self).exists_literal hkind
      exact .complete (.last n)
    · exact .noNumber [] hkind
  | t :: u :: rest, _, hclass => by
    simp only [List.mem_cons, forall_eq_or_imp] at hclass
    have hrest : Scan (u :: rest) := scan (List.cons_ne_nil u rest) (by
      simp only [List.mem_cons, forall_eq_or_imp]
      exact hclass.2)
    exact hrest.cons hclass.1

end LineArithmetic
