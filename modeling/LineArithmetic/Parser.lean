import LineArithmetic.Log
import LineArithmetic.Node
import LineArithmetic.Token

/-!
# Parsing a line

A line is parsed from its end towards its start.  Its last token must be a
number; from there on each operator is paired with the number to its left and
folded into what has been accumulated, which becomes the left operand.  So
`1 + 2 * 3` is parsed as `(3 * 2) + 1`.

`Parser` is the state of a parser between two steps.  Both of its lists have
the element that is taken next at their head: the tokens have the last one of
the line there, the stack has its top there.  `fold` and `parse` are its steps;
a step gives the state that it leaves whether it succeeds or not.
-/

namespace LineArithmetic

/-- A parser between two steps. -/
structure Parser where
  /-- The tokens that were not taken, the last one of the line first. -/
  pending : List Token
  /-- The accumulated trees, the top first. -/
  stack : List Node
  line : Int
  deriving DecidableEq, Repr

/-- What a step gives: a tree or a fault, the parser afterwards, and what was
reported. -/
structure Parser.Step where
  result : Except Fault Node
  parser : Parser
  records : List Log.Record

namespace Parser

/-- The parser of a line at its start. -/
def start (tokens : List Token) (line : Int) : Parser :=
  ⟨tokens.reverse, [], line⟩

/-- The tokens that were not taken, in the order of the line. -/
def remaining (p : Parser) : List Token :=
  p.pending.reverse

/-- Puts tokens behind those that were not taken. -/
def feed (p : Parser) (tokens : List Token) : Parser :=
  { p with pending := tokens.reverse ++ p.pending }

/-- Puts a tree on top of the stack. -/
def push (p : Parser) (node : Node) : Parser :=
  { p with stack := node :: p.stack }

/-- A step that ends in a diagnostic about the parser's line. -/
def fail (p : Parser) (kind : Diagnostic.Kind) (expected token : String)
    (records : List Log.Record) : Step :=
  ⟨.ok (.diagnostic ⟨kind, expected, token, p.line⟩), p, records⟩

def aNumber : String := "a number literal"

def anOperator : String := "an operation token"

/-- The report of a stack that holds what no line puts there. -/
def invariantReport (line : Int) (kind : Node.Kind) : Log.Record :=
  ⟨.error, .parser, "Parser stack invariant violated on line " ++ toString line ++
    ": found " ++ kind.label ++ " fragment"⟩

/-- Combines what has been accumulated with an operator and the number to the
left of it, which is taken from the pending tokens. -/
def fold (p : Parser) (acc : Node) (op : Token) : Step :=
  match acc.kind with
  | .error fault => ⟨.error fault, p, []⟩
  | .ok .error => ⟨.ok acc, p, []⟩
  | .ok .void =>
    p.fail .invalidStack "a number or an operation" Node.Kind.void.label
      [invariantReport p.line .void]
  | .ok _ =>
    if op.kind ≠ .operator then p.fail .invalidToken anOperator op.text []
    else match p.pending with
      | [] => p.fail .incompleteExpression aNumber "" []
      | operand :: rest =>
        let taken := { p with pending := rest }
        if operand.kind ≠ .number then taken.fail .invalidToken aNumber operand.text []
        else match Node.ofLiteral operand.text with
          | .error fault => ⟨.error fault, taken, []⟩
          | .ok right => ⟨.ok (.binary op.text acc right), taken, []⟩

theorem pending_length_fold_le (p : Parser) (acc : Node) (op : Token) :
    (p.fold acc op).parser.pending.length ≤ p.pending.length := by
  unfold fold
  split
  · exact Nat.le_refl _
  · exact Nat.le_refl _
  · exact Nat.le_refl _
  · split
    · exact Nat.le_refl _
    · split
      · exact Nat.le_refl _
      · rename_i operand rest hpending
        rw [hpending]
        split
        · exact Nat.le_succ _
        · split <;> exact Nat.le_succ _

/-- The end of a line: the one accumulated tree, or a complaint about several. -/
def finish (p : Parser) : Step :=
  match p.stack with
  | [] => ⟨.error .emptyStack, p, []⟩
  | [node] => ⟨.ok node, { p with stack := [] }, []⟩
  | nodes =>
    match Node.renderAll nodes.reverse with
    | .error fault => ⟨.error fault, p, []⟩
    | .ok text => p.fail .multipleExpressions "a single token" text []

/-- Takes tokens until none is left or the line is found wrong. -/
def run (p : Parser) : Step :=
  match _hpending : p.pending, p.stack with
  | [], _ => p.finish
  | token :: rest, [] =>
    let taken := { p with pending := rest }
    if token.kind ≠ .number then taken.fail .invalidToken aNumber token.text []
    else match Node.ofLiteral token.text with
      | .error fault => ⟨.error fault, taken, []⟩
      | .ok node => run (taken.push node)
  | token :: rest, acc :: below =>
    let step := fold { p with pending := rest, stack := below } acc token
    match step.result with
    | .error _ | .ok (.diagnostic _) => step
    | .ok node =>
      let next := run (step.parser.push node)
      { next with records := step.records ++ next.records }
  termination_by p.pending.length
  decreasing_by
    · simp [push, _hpending]
    · have := pending_length_fold_le { p with pending := rest, stack := below } acc token
      simp only [push, _hpending, List.length_cons] at this ⊢
      omega

/-- Whether nothing was accumulated and there is nothing to take but, at most,
one empty token. -/
def isBlank (p : Parser) : Bool :=
  p.stack.isEmpty && match p.pending with
    | [] => true
    | [token] => token.text == ""
    | _ => false

/-- Parses what is left of the line.  A blank line gives nothing and is not
taken. -/
def parse (p : Parser) : Step :=
  if p.isBlank then ⟨.ok .void, p, []⟩ else p.run

end Parser

end LineArithmetic
