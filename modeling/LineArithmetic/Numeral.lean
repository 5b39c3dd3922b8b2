import LineArithmetic.Binary64.Reading
import LineArithmetic.Number

/-!
# Numerals

A numeral is a literal together with the number that it denotes.  The number
is an integer if the literal has no point and denotes a small enough integer;
`denotes` keeps text and number together, so a numeral is determined by its
literal.
-/

namespace LineArithmetic

/-- The number that a literal denotes. -/
def Number.ofLiteral? (literal : String) : Option Number :=
  (Binary64.read? literal).map (Number.ofBinary64 !literal.toList.contains '.')

/-- A literal that denotes a number. -/
structure Numeral where
  literal : String
  value : Number
  denotes : Number.ofLiteral? literal = some value
  deriving DecidableEq, Repr

namespace Numeral

/-- The numeral of a literal, if it denotes a number. -/
def ofLiteral? (literal : String) : Option Numeral :=
  match h : Number.ofLiteral? literal with
  | some value => some ⟨literal, value, h⟩
  | none => none

theorem ofLiteral?_literal (n : Numeral) : ofLiteral? n.literal = some n := by
  unfold ofLiteral?
  split
  · rename_i value h
    have : value = n.value := Option.some.inj (h.symm.trans n.denotes)
    subst this
    rfl
  · rename_i h
    rw [n.denotes] at h
    cases h

theorem ext_literal {m n : Numeral} (h : m.literal = n.literal) : m = n := by
  have hm := ofLiteral?_literal m
  rw [h, ofLiteral?_literal n] at hm
  exact (Option.some.inj hm).symm

end Numeral

end LineArithmetic
