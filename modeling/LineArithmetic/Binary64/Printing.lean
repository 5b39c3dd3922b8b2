import LineArithmetic.Binary64.Shortest

/-!
# Numbers as text

The text of a number: the digits of its shortest decimal, laid out by a
`Layout`.  Exponents of ten from `positionalFrom` up to, not including,
`positionalBelow` are written positionally and always with a point; all others
in scientific form with a signed exponent.
-/

namespace LineArithmetic.Binary64

/-- Where the positional form starts and ends, and the least number of digits
of an exponent. -/
structure Layout where
  positionalFrom : Int
  positionalBelow : Int
  exponentDigits : Nat
  deriving DecidableEq, Repr

/-- Positional from `0.0001` up to `10 ^ 16`; exponents have two digits or more. -/
def Layout.plain : Layout := ⟨-4, 16, 2⟩

/-- Decimal digits on the left filled with zeros up to a width. -/
def padded (width n : Nat) : String :=
  let digits := Nat.toDigits 10 n
  String.ofList (List.replicate (width - digits.length) '0' ++ digits)

/-- Lays out digits whose first one counts multiples of `10 ^ lead`. -/
def Layout.write (layout : Layout) (digits : List Char) (lead : Int) : String :=
  if layout.positionalFrom ≤ lead ∧ lead < layout.positionalBelow then
    if lead < 0 then
      "0." ++ String.ofList (List.replicate (-lead - 1).toNat '0' ++ digits)
    else
      let whole := digits.take (lead.toNat + 1)
      let fraction := digits.drop (lead.toNat + 1)
      String.ofList (whole ++ List.replicate (lead.toNat + 1 - whole.length) '0') ++ "." ++
        (if fraction.isEmpty then "0" else String.ofList fraction)
  else
    String.ofList (digits.take 1) ++
      (if digits.length ≤ 1 then "" else "." ++ String.ofList (digits.drop 1)) ++
      (if lead < 0 then "e-" else "e+") ++ padded layout.exponentDigits lead.natAbs

/-- The text of a magnitude. -/
def magnitudeText (rank : Nat) : String :=
  if rank = 0 then "0.0"
  else
    let d := shortest rank
    let digits := Nat.toDigits 10 d.coefficient
    Layout.plain.write digits (digits.length - 1 + d.exponent)

/-- The text of a number. -/
def text : Binary64 → String
  | .nan => "nan"
  | .infinite negative => if negative then "-inf" else "inf"
  | .finite negative rank => (if negative then "-" else "") ++ magnitudeText rank

end LineArithmetic.Binary64
