import LineArithmetic.Text.Blank
import LineArithmetic.Text.DecimalDigit
import LineArithmetic.Text.Quoted

/-!
# The written form of numbers

What all readers of numbers share.  A number may be written in the decimal
digits of any script and surrounded by blanks, and single underscores may
stand between its digits.  `plainForm?` brings such a text into the form that
the grammars of numbers are written for: ASCII digits, no blanks around, no
underscores.
-/

namespace LineArithmetic.Text

/-- The ASCII character that a character of a numeral stands for; the
question mark stands for nothing in any numeral. -/
def asciiForm (c : Char) : Char :=
  if c.toNat < 0x7F then c
  else if isBlank c then ' '
  else match decimalDigit? c with
    | some d => Nat.digitChar d
    | none => '?'

/-- Whether every underscore stands between two digits, given the character
in front of the text. -/
def underscoresSeparate (before : Char) : List Char → Bool
  | [] => before != '_'
  | c :: cs =>
    (if c = '_' then before.isDigit else before != '_' || c.isDigit) &&
      underscoresSeparate c cs

/-- The plain form of a numeral, unless it holds a misplaced underscore. -/
def plainForm? (text : String) : Option (List Char) :=
  let cs := trim isAsciiBlank (text.toList.map asciiForm)
  if underscoresSeparate ' ' cs then some (cs.filter (· != '_')) else none

/-- The value of a list of ASCII digits. -/
def digitsValue (digits : List Char) : Nat :=
  digits.foldl (fun value d => value * 10 + (d.toNat - '0'.toNat)) 0

/-- The sign in front of a numeral, and what follows it. -/
def takeSign : List Char → Bool × List Char
  | '-' :: cs => (true, cs)
  | '+' :: cs => (false, cs)
  | cs => (false, cs)

/-- Why a text is no integer. -/
inductive IntegerFault where
  | malformed (text : String)
  /-- Longer texts than `digitLimit` are refused. -/
  | tooLong (digits : Nat)
  deriving DecidableEq, Repr

/-- The greatest number of digits of an integer that is read. -/
def digitLimit : Nat := 4300

/-- A refused text is shown in at most this many characters. -/
def shownLength : Nat := 200

/-- The fault in words. -/
def IntegerFault.message : IntegerFault → String
  | .malformed text =>
    "invalid literal for int() with base 10: " ++
      String.ofList ((quoted text).toList.take shownLength)
  | .tooLong digits =>
    "Exceeds the limit (" ++ toString digitLimit ++
      " digits) for integer string conversion: value has " ++ toString digits ++
      " digits; use sys.set_int_max_str_digits() to increase the limit"

/-- The integer of a sign and digits. -/
def integerOfDigits (negative : Bool) (digits : List Char) : Except IntegerFault Int :=
  if digitLimit < digits.length then .error (.tooLong digits.length)
  else
    let value : Int := digitsValue digits
    .ok (if negative then -value else value)

/-- Reads an integer.  The length of the digits is looked at before what
follows them. -/
def readInteger (text : String) : Except IntegerFault Int :=
  let isPart (c : Char) : Bool := c.isDigit || c == '_'
  let (negative, rest) := takeSign ((text.toList.map asciiForm).dropWhile isAsciiBlank)
  let written := rest.takeWhile isPart
  if !underscoresSeparate ' ' written then .error (.malformed text)
  else
    match integerOfDigits negative (written.filter (· != '_')) with
    | .error fault => .error fault
    | .ok n =>
      if written.isEmpty || !(rest.dropWhile isPart).all isAsciiBlank then
        .error (.malformed text)
      else .ok n

end LineArithmetic.Text
