import LineArithmetic.Text.Hex

/-!
# Percent encoding

A percent sign with two hexadecimal digits is a byte.  The text between two
characters beyond ASCII is turned into bytes as a whole, and what the bytes mean
is for a character set to say; a text without percent signs is left alone.
-/

namespace LineArithmetic.Text.Percent

/-- The byte of a character in ASCII. -/
def byteOf (c : Char) : UInt8 :=
  UInt8.ofNat c.toNat

/-- The bytes of a text in ASCII.  A percent sign that two digits do not follow
stands for itself. -/
def bytes : List Char → List UInt8
  | [] => []
  | '%' :: a :: b :: cs =>
    match hexDigit? a, hexDigit? b with
    | some high, some low => UInt8.ofNat (high * 16 + low) :: bytes cs
    | _, _ => byteOf '%' :: bytes (a :: b :: cs)
  | c :: cs => byteOf c :: bytes cs

/-- Whether a character is one of ASCII. -/
def isAscii (c : Char) : Bool :=
  c.toNat < 0x80

/-- One character further to the left: a text as runs of characters that are all
in ASCII or all not. -/
def consRun (c : Char) : List (List Char) → List (List Char)
  | (d :: run) :: runs =>
    if isAscii c = isAscii d then (c :: d :: run) :: runs else [c] :: (d :: run) :: runs
  | runs => [c] :: runs

/-- The runs of a text. -/
def runs (cs : List Char) : List (List Char) :=
  cs.foldr consRun []

/-- Decodes a text, given what bytes mean. -/
def decode {ε : Type} (meaning : List UInt8 → Except ε (List Char)) (cs : List Char) :
    Except ε (List Char) :=
  let decodeRun (run : List Char) : Except ε (List Char) :=
    if run.all isAscii then meaning (bytes run) else .ok run
  if cs.contains '%' then ((runs cs).mapM decodeRun).map List.flatten else .ok cs

/-- Decodes a text in which every byte is the character of its number. -/
def decodeLatin1 (cs : List Char) : List Char :=
  if cs.contains '%' then
    (runs cs).flatMap fun run =>
      if run.all isAscii then (bytes run).map fun byte => Char.ofNat byte.toNat else run
  else cs

end LineArithmetic.Text.Percent
