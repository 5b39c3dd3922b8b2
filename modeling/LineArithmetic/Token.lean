import LineArithmetic.Text.Quoted
import LineArithmetic.Text.Words

/-!
# Tokens

A line is cut at its blanks into words, and each word is classed by what it
is: a number literal, an operator, or neither.  Words of the last class are
tokens like the others; that they fit nowhere is found when the line is parsed.
-/

namespace LineArithmetic

/-- What a token can be used as. -/
inductive Token.Kind where
  | number
  | operator
  | unknown
  deriving DecidableEq, Repr

/-- The name of a class of tokens. -/
def Token.Kind.name : Token.Kind → String
  | .number => "NUMBER"
  | .operator => "OPERATOR"
  | .unknown => "UNKNOWN"

/-- A word with its class. -/
structure Token where
  kind : Token.Kind
  text : String
  deriving DecidableEq, Repr

namespace Token

/-- An integral part: one digit, or several that do not start with zero. -/
def isIntegralPart : List Char → Bool
  | [] => false
  | [d] => d.isDigit
  | d :: ds => d.isDigit && d != '0' && ds.all Char.isDigit

/-- A fraction: nothing, or a point followed by digits. -/
def isFractionPart : List Char → Bool
  | [] => true
  | c :: ds => c == '.' && !ds.isEmpty && ds.all Char.isDigit

/-- Whether a word is a number literal: an integral part and a fraction. -/
def isNumberLiteral (cs : List Char) : Bool :=
  isIntegralPart (cs.takeWhile Char.isDigit) && isFractionPart (cs.dropWhile Char.isDigit)

/-- The operators. -/
def operators : List String := ["+", "-", "*", "/"]

/-- The class of a word. -/
def kindOf (text : String) : Kind :=
  if isNumberLiteral text.toList then .number
  else if text ∈ operators then .operator
  else .unknown

/-- The token of a word. -/
def classify (text : String) : Token :=
  ⟨kindOf text, text⟩

/-- A token as a message shows it. -/
def shown (t : Token) : String :=
  "Token(TokenType." ++ t.kind.name ++ ", " ++ Text.quoted t.text ++ ")"

/-- The tokens of a text, in order. -/
def ofText (text : String) : List Token :=
  (Text.words text.toList).map fun word => classify (String.ofList word)

@[simp] theorem text_classify (text : String) : (classify text).text = text := rfl

end Token

/-- A line without the blanks around it; no line at all is an empty one. -/
def trimmedLine (line : Option String) : String :=
  String.ofList (Text.trim Text.isBlank (line.getD "").toList)

/-- The tokens of a line. -/
def lineTokens (line : Option String) : List Token :=
  Token.ofText (trimmedLine line)

end LineArithmetic
