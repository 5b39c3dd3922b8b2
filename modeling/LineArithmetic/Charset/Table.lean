import LineArithmetic.Charset.Decoding

/-!
# Tables of character codes

A table says which codes stand for which characters; a code that it does not
mention stands for nothing.  A span maps consecutive codes to consecutive
characters; a run lists the characters of consecutive codes, which differ in
their last byte only.
-/

namespace LineArithmetic.Charset

/-- Consecutive codes for consecutive characters. -/
structure Span where
  first : Nat
  length : Nat
  char : Nat

/-- The character of a code, if the code lies in the span. -/
def Span.char? (span : Span) (code : Nat) : Option Char :=
  if span.first ≤ code ∧ code < span.first + span.length then
    some (Char.ofNat (span.char + (code - span.first)))
  else none

/-- The characters of consecutive codes. -/
structure Run where
  first : Nat
  chars : String

/-- The character of a code, if the code lies in the run. -/
def Run.char? (run : Run) (code : Nat) : Option Char :=
  if run.first ≤ code ∧ run.first / 0x100 = code / 0x100 then
    run.chars.toList[code - run.first]?
  else none

/-- Which codes stand for which characters. -/
structure Table where
  spans : List Span
  runs : List Run

/-- The character of a code. -/
def Table.char? (table : Table) (code : Nat) : Option Char :=
  (table.spans.findSome? fun span => span.char? code).or
    (table.runs.findSome? fun run => run.char? code)

/-- Decodes a text each of whose bytes is a code of its own. -/
def Table.decode (table : Table) (reading : Reading) (bytes : List UInt8) :
    Except ByteFault (List Char) :=
  decodeEach "charmap" (fun byte _ => .ofChar? .unmapped (table.char? byte.toNat))
    reading.lenient bytes

end LineArithmetic.Charset
