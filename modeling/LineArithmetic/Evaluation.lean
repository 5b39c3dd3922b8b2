import LineArithmetic.Node

/-!
# Evaluating trees

An operation evaluates its left operand, then its right one, computes in
binary64 and holds the result as an integer only if both operands were
integers.  A diagnostic evaluates to its message and nothing to nothing, so
any compiled line has a value; only trees put together by hand can fail.
-/

namespace LineArithmetic

/-- What an operator computes. -/
def operation? : String → Option (Binary64 → Binary64 → Binary64)
  | "+" => some Binary64.add
  | "-" => some Binary64.sub
  | "*" => some Binary64.mul
  | "/" => some Binary64.div
  | _ => none

/-- A value as an operand. -/
def Value.toBinary64 : Value → Except Fault Binary64
  | .void => .error .missingOperand
  | .number n => .ok n.toBinary64
  | .text s =>
    match Binary64.read? s with
    | some x => .ok x
    | none => .error (.unreadableNumber s)
  | .truth b => .ok (Binary64.ofInt (if b then 1 else 0))

/-- Applies an operator to two values.  The operator is looked up before the
operands are converted. -/
def Value.combine (op : String) (left right : Value) : Except Fault Value :=
  match operation? op with
  | none => .error (.unknownOperator op)
  | some f =>
    match left.toBinary64 with
    | .error fault => .error fault
    | .ok x =>
      match right.toBinary64 with
      | .error fault => .error fault
      | .ok y => .ok (.number (.ofBinary64 (left.isInt && right.isInt) (f x y)))

/-- The value of a tree. -/
def Node.eval : Node → Except Fault Value
  | .void => .ok .void
  | .number numeral => .ok (.number numeral.value)
  | .diagnostic d => .ok (.text d.message)
  | .foreign leaf => .error (.notATree leaf)
  | .binary op left right =>
    match eval left with
    | .error fault => .error fault
    | .ok l =>
      match eval right with
      | .error fault => .error fault
      | .ok r => Value.combine op l r

/-- The values of several trees; the first fault ends it. -/
def evalAll (nodes : List Node) : Except Fault (List Value) :=
  nodes.mapM Node.eval

end LineArithmetic
