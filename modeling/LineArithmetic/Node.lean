import LineArithmetic.Diagnostic
import LineArithmetic.Numeral
import LineArithmetic.Value

/-!
# Trees

A compiled line: nothing, a number, an operation, or a diagnostic in their
place.  Trees can also be put together by hand, and then anything can stand
where a tree belongs; such a leaf is *foreign*.  Foreign leaves have no
rendering, so describing or rendering a tree may fail, and the fault names the
first leaf in reading order that is to blame.
-/

namespace LineArithmetic

/-- What stands in a tree without being one: a value, or a tree without a
kind. -/
inductive Foreign where
  | value (v : Value)
  | kindless
  deriving DecidableEq, Repr

/-- Why a tree cannot be built, described, taken or evaluated. -/
inductive Fault where
  /-- A text that denotes no number is used as one. -/
  | unreadableNumber (text : String)
  /-- An operand is nothing. -/
  | missingOperand
  | unknownOperator (op : String)
  /-- Something foreign is evaluated. -/
  | notATree (leaf : Foreign)
  /-- A tree without a kind is described. -/
  | noDescription
  /-- Something is asked for a part that its type does not have. -/
  | missingPart (typeName part : String)
  /-- A tree is taken from an empty stack. -/
  | emptyStack
  deriving DecidableEq, Repr

/-- The kinds of trees. -/
inductive Node.Kind where
  | void
  | number
  | binary
  | error
  deriving DecidableEq, Repr

def Node.Kind.label : Node.Kind → String
  | .void => "VOID"
  | .number => "NUMBER"
  | .binary => "BINARY_EXPRESSION"
  | .error => "ERROR"

/-- The tree of a line. -/
inductive Node where
  | void
  | number (numeral : Numeral)
  | binary (op : String) (left right : Node)
  | diagnostic (d : Diagnostic)
  | foreign (leaf : Foreign)
  deriving DecidableEq, Repr

namespace Foreign

/-- Something foreign as a message shows it. -/
def shown : Foreign → String
  | .value v => v.shown
  | .kindless => "<Node>"

/-- The fault of asking something foreign for a part of a tree. -/
def missing (part : String) : Foreign → Fault
  | .value v => .missingPart v.typeName part
  | .kindless => .missingPart "NoneType" "value"

end Foreign

/-- The fault in words. -/
def Fault.message : Fault → String
  | .unreadableNumber text => "could not convert string to float: " ++ Text.quoted text
  | .missingOperand => "float() argument must be a string or a real number, not 'NoneType'"
  | .unknownOperator op => op
  | .notATree leaf => "Invalid parse result: " ++ leaf.shown
  | .noDescription => ""
  | .missingPart typeName part =>
    "'" ++ typeName ++ "' object has no attribute '" ++ part ++ "'"
  | .emptyStack => "pop from empty list"

namespace Node

/-- The tree of a literal. -/
def ofLiteral (literal : String) : Except Fault Node :=
  match Numeral.ofLiteral? literal with
  | some numeral => .ok (.number numeral)
  | none => .error (.unreadableNumber literal)

/-- The kind of a tree. -/
def kind : Node → Except Fault Kind
  | .void => .ok .void
  | .number _ => .ok .number
  | .binary .. => .ok .binary
  | .diagnostic _ => .ok .error
  | .foreign leaf => .error (leaf.missing "type")

/-- A tree between brackets: its kind and its description. -/
def bracket (kind : Kind) (description : String) : String :=
  "[ " ++ kind.label ++ " " ++ description ++ " ]"

/-- The rendering of a tree; an operation renders its operands inside its own. -/
def render : Node → Except Fault String
  | .void => .ok (bracket .void "VOID")
  | .number numeral => .ok (bracket .number numeral.literal)
  | .binary op left right =>
    match render left with
    | .error fault => .error fault
    | .ok l =>
      match render right with
      | .error fault => .error fault
      | .ok r => .ok (bracket .binary (op ++ ", " ++ l ++ ", " ++ r))
  | .diagnostic d => .ok d.message
  | .foreign leaf => .error (leaf.missing "render")

/-- What stands inside the brackets of a rendering. -/
def describe : Node → Except Fault String
  | .void => .ok "VOID"
  | .number numeral => .ok numeral.literal
  | .binary op left right =>
    match render left with
    | .error fault => .error fault
    | .ok l =>
      match render right with
      | .error fault => .error fault
      | .ok r => .ok (op ++ ", " ++ l ++ ", " ++ r)
  | .diagnostic _ => .error (.missingPart "Diagnostic" "describe")
  | .foreign (.value v) => .error (.missingPart v.typeName "describe")
  | .foreign .kindless => .error .noDescription

/-- The renderings of several trees, separated by commas. -/
def renderAll (nodes : List Node) : Except Fault String :=
  match nodes.mapM render with
  | .error fault => .error fault
  | .ok texts => .ok (", ".intercalate texts)

end Node

end LineArithmetic
