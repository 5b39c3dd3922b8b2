import LineArithmetic.Binary64.Basic
import LineArithmetic.Text.CodePoint

/-!
# JSON values

Integers and numbers with a point or an exponent are told apart, as they are
in the text.  Strings are lists of code points, since an escape can spell half
of a surrogate pair.  The members of an object are kept in the order of the
text, repetitions included; of several members of one name the last one counts.
-/

namespace LineArithmetic

/-- A JSON value. -/
inductive Json where
  | null
  | bool (b : Bool)
  | int (n : Int)
  | float (x : Binary64)
  | string (points : List Text.CodePoint)
  | array (items : List Json)
  | object (members : List (List Text.CodePoint × Json))
  deriving Repr

namespace Json

/-- The string of a text. -/
def ofText (text : String) : Json :=
  .string (Text.codePoints text)

/-- The object of named members. -/
def ofMembers (members : List (String × Json)) : Json :=
  .object (members.map fun member => (Text.codePoints member.1, member.2))

/-- The member of a name, if the value is an object that has it. -/
def member? (name : String) : Json → Option Json
  | .object members =>
    (members.reverse.find? fun member => member.1 = Text.codePoints name).map (·.2)
  | _ => none

/-- The text of a string without surrogates. -/
def text? : Json → Option String
  | .string points => Text.ofCodePoints? points
  | _ => none

end Json

end LineArithmetic
