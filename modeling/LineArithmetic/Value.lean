import LineArithmetic.Number
import LineArithmetic.Text.Quoted

/-!
# Values

What evaluating a line gives: nothing for a blank line, a number for an
expression, a text for a line that does not compile.  Truth values never come
out of a line; they are among the values so that any of them can be written.

`format` writes a value as one line of output.  `jsonSafe` replaces the numbers
that JSON has no spelling for by their texts.
-/

namespace LineArithmetic

/-- A value that can be written. -/
inductive Value where
  | void
  | number (n : Number)
  | text (s : String)
  | truth (b : Bool)
  deriving DecidableEq, Repr

namespace Value

/-- The word for a number that is not finite. -/
def nonFiniteWord : Binary64 → String
  | .infinite false => "Infinity"
  | .infinite true => "-Infinity"
  | _ => "NaN"

/-- A value as a line of output. -/
def format : Value → String
  | .void => "null"
  | .number (.int n) => toString n
  | .number (.float x) => if x.isFinite then x.text else nonFiniteWord x
  | .text s => s
  | .truth b => if b then "True" else "False"

/-- A value that JSON can hold. -/
def jsonSafe (v : Value) : Value :=
  match v with
  | .number n => if n.isNonFinite then .text v.format else v
  | _ => v

/-- A value as a message shows it. -/
def shown : Value → String
  | .void => "None"
  | .number n => n.text
  | .text s => Text.quoted s
  | .truth b => if b then "True" else "False"

/-- The name of a value's type in messages. -/
def typeName : Value → String
  | .void => "NoneType"
  | .number (.int _) => "int"
  | .number (.float _) => "float"
  | .text _ => "str"
  | .truth _ => "bool"

/-- Whether a value counts as an integer in arithmetic. -/
def isInt : Value → Bool
  | .number n => n.isInt
  | .truth _ => true
  | _ => false

end Value

end LineArithmetic
