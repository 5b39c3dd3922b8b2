import LineArithmetic.Text.Quoted

/-!
# Diagnostics

A line that does not compile gives a diagnostic in place of a tree: what is
wrong, what was expected, the offending text and the number of the line.  It
is plain data, and its message is what the line evaluates to.
-/

namespace LineArithmetic

/-- What can be wrong with a line. -/
inductive Diagnostic.Kind where
  | incompleteExpression
  | invalidToken
  | invalidStack
  | multipleExpressions
  deriving DecidableEq, Repr

namespace Diagnostic.Kind

def name : Kind → String
  | .incompleteExpression => "INCOMPLETE_EXPRESSION"
  | .invalidToken => "INVALID_TOKEN"
  | .invalidStack => "INVALID_STACK"
  | .multipleExpressions => "MULTIPLE_EXPRESSIONS"

/-- The kinds in the order of their definition. -/
def all : List Kind :=
  [.incompleteExpression, .invalidToken, .invalidStack, .multipleExpressions]

/-- The kind of a name. -/
def ofName? (name : String) : Option Kind :=
  all.find? fun kind => kind.name = name

/-- What is wrong, in words. -/
def summary : Kind → String
  | .incompleteExpression => "Incomplete expression provided"
  | .invalidToken => "Invalid token provided"
  | .invalidStack => "Invalid stack element"
  | .multipleExpressions => "Multiple expressions on a single line"

theorem ofName?_name (kind : Kind) : ofName? kind.name = some kind := by
  cases kind <;> decide

end Diagnostic.Kind

/-- Why a line does not compile. -/
structure Diagnostic where
  kind : Diagnostic.Kind
  expected : String
  token : String
  line : Int
  deriving DecidableEq, Repr

namespace Diagnostic

/-- How every message starts. -/
def heading : String := "[COMPILATION ERROR]: "

/-- The diagnostic in words. -/
def message (d : Diagnostic) : String :=
  heading ++ d.kind.summary ++ " => expected " ++ d.expected ++ ", got '" ++ d.token ++
    "' on line " ++ toString d.line

/-- A diagnostic as another message shows it. -/
def shown (d : Diagnostic) : String :=
  "Diagnostic(" ++ d.kind.name ++ ", " ++ Text.quoted d.token ++ ", line=" ++
    toString d.line ++ ")"

end Diagnostic

end LineArithmetic
