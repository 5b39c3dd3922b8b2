import LineArithmetic.Binary64.Rounding
import LineArithmetic.Text.Numeral

/-!
# Numbers from text

A number is written as an optional sign followed by `inf`, `infinity` or `nan`
in any case, or by a decimal: digits with an optional point, at least one
digit in all, and an optional exponent of ten.  A decimal is read as the
number nearest to it.
-/

namespace LineArithmetic.Binary64

open Text

/-- The exponent of ten that ends a decimal: nothing, or a letter `e` with a
signed integer. -/
def readExponent? : List Char → Option Int
  | [] => some 0
  | e :: cs =>
    let (negative, digits) := takeSign cs
    if (e = 'e' ∨ e = 'E') ∧ digits ≠ [] ∧ digits.all Char.isDigit then
      let value : Int := digitsValue digits
      some (if negative then -value else value)
    else none

/-- The number of a decimal without its sign. -/
def readMagnitude? (negative : Bool) (cs : List Char) : Option Binary64 :=
  let whole := cs.takeWhile Char.isDigit
  let afterWhole := cs.dropWhile Char.isDigit
  let (fraction, afterFraction) := match afterWhole with
    | '.' :: rest => (rest.takeWhile Char.isDigit, rest.dropWhile Char.isDigit)
    | rest => ([], rest)
  if whole.isEmpty && fraction.isEmpty then none
  else (readExponent? afterFraction).map fun exponent =>
    ofDecimal negative (digitsValue (whole ++ fraction)) (exponent - fraction.length)

/-- The number of a plain form. -/
def ofPlain? (plain : List Char) : Option Binary64 :=
  let (negative, magnitude) := takeSign plain
  let word := String.ofList (magnitude.map Char.toLower)
  if word = "inf" ∨ word = "infinity" then some (.infinite negative)
  else if word = "nan" then some .nan
  else readMagnitude? negative magnitude

/-- Reads a number. -/
def read? (text : String) : Option Binary64 :=
  (plainForm? text).bind ofPlain?

end LineArithmetic.Binary64
