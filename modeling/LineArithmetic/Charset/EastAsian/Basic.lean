import LineArithmetic.Charset.Table

/-!
# Characters of several bytes

What the character sets of East Asia share.  Bytes below 0x80 are ASCII, and any
other byte starts a character of two bytes or more.  A character that is in no
table makes its first byte a fault, so that a wrong second byte is read again as
a first one; a text must not end in the middle of a character.
-/

namespace LineArithmetic.Charset.EastAsian

/-- The code of two bytes. -/
def code (a b : UInt8) : Nat :=
  a.toNat * 0x100 + b.toNat

/-- The row and column of two bytes with their high bits set. -/
def rowColumn? (a b : UInt8) : Option Nat :=
  if 0x80 ≤ a ∧ 0x80 ≤ b then some (code (a - 0x80) (b - 0x80)) else none

/-- A byte that starts no character. -/
def illegal {σ : Type} : Front σ :=
  .fault 0 .illegalSequence

/-- The start of a character that the text ends in the middle of. -/
def incomplete {σ : Type} (rest : List UInt8) : Front σ :=
  .fault rest.length .incompleteSequence

/-- Characters of one byte and `more` others, if there are any. -/
def found? (more : Nat) : Option (List Char) → Front Unit
  | some cs => .chars cs more ()
  | none => illegal

/-- What two bytes start with; the second one must be there. -/
def twoBytes (front : UInt8 → UInt8 → Front Unit) (a : UInt8) : List UInt8 → Front Unit
  | [] => incomplete []
  | b :: _ => front a b

/-- Bytes of ASCII, and what the other bytes start with. -/
def orAscii (front : UInt8 → List UInt8 → Front Unit) (a : UInt8) (rest : List UInt8) :
    Front Unit :=
  match ascii? a with
  | some c => .chars [c] 0 ()
  | none => front a rest

/-- A character set whose characters take several bytes. -/
structure Encoding where
  name : String
  front : UInt8 → List UInt8 → Front Unit

/-- Decodes a text. -/
def Encoding.decode (encoding : Encoding) (reading : Reading) (bytes : List UInt8) :
    Except ByteFault (List Char) :=
  decodeEach encoding.name encoding.front reading.lenient bytes

/-- ASCII and characters of two bytes. -/
def Encoding.ofLookup (name : String) (lookup : UInt8 → UInt8 → Option (List Char)) :
    Encoding :=
  ⟨name, orAscii (twoBytes fun a b => found? 1 (lookup a b))⟩

end LineArithmetic.Charset.EastAsian
