import LineArithmetic.Charset.Decoding
import LineArithmetic.Text.CodePoint

/-!
# UTF-7

ASCII stands for itself.  A plus sign starts a *shift*: characters in
UTF-16, written in base 64, up to the first character that is no digit of base
64; a minus sign there belongs to the shift.  A plus sign and a minus sign are
a plus sign.
-/

namespace LineArithmetic.Charset.Utf7

open Text

/-- How the encoding is called in messages. -/
def name : String := "utf7"

/-- The value of a digit of base 64. -/
def digit? (byte : UInt8) : Option Nat :=
  let c := Char.ofNat byte.toNat
  if c.isUpper then some (byte.toNat - 'A'.toNat)
  else if c.isLower then some (byte.toNat - 'a'.toNat + 26)
  else if c.isDigit then some (byte.toNat - '0'.toNat + 52)
  else if c = '+' then some 62
  else if c = '/' then some 63
  else none

/-- What has been read of a shift: the bits that make no unit yet, the first
half of a surrogate pair, and the characters, last one first. -/
structure Shift where
  bits : Nat
  count : Nat
  high : Option CodePoint
  chars : List Char

/-- A shift with one more unit of 16 bits. -/
def Shift.addUnit (shift : Shift) (unit : Nat) : Shift :=
  let point := CodePoint.ofNat unit
  match shift.high with
  | some high =>
    if point.isLowSurrogate then
      { shift with
        high := none, chars := (high.joinSurrogates point).toChar?.toList ++ shift.chars }
    else if point.isHighSurrogate then { shift with high := some point }
    else { shift with high := none, chars := point.toChar?.toList ++ shift.chars }
  | none =>
    if point.isHighSurrogate then { shift with high := some point }
    else { shift with chars := point.toChar?.toList ++ shift.chars }

/-- A shift with one more digit. -/
def Shift.addDigit (shift : Shift) (digit : Nat) : Shift :=
  let bits := shift.bits * 64 + digit
  let count := shift.count + 6
  if count < 16 then { shift with bits, count }
  else
    let left := count - 16
    { shift with bits := bits % Nat.pow 2 left, count := left }.addUnit (bits / Nat.pow 2 left)

/-- What is wrong with the bits left at the end of a shift. -/
def Shift.leftover? (shift : Shift) : Option Reason :=
  if 6 ≤ shift.count then some .partialCharacter
  else if shift.bits ≠ 0 then some .nonzeroPadding
  else none

/-- What a shift is, given the bytes behind its plus sign. -/
def shiftFront (openEnded : Bool) (rest : List UInt8) : Front Unit :=
  let digits := rest.takeWhile fun byte => (digit? byte).isSome
  let shift := (digits.filterMap digit?).foldl Shift.addDigit ⟨0, 0, none, []⟩
  match rest.drop digits.length with
  | [] =>
    if openEnded then .stop
    else if shift.high.isSome || (shift.leftover?).isSome then
      .fault digits.length .unterminatedShift
    else .chars shift.chars.reverse digits.length ()
  | last :: _ =>
    match shift.leftover? with
    | some reason => .fault (digits.length + 1) reason
    | none =>
      .chars shift.chars.reverse (digits.length + if last = 0x2D then 1 else 0) ()

/-- What a byte and the bytes after it start with. -/
def front (openEnded : Bool) (byte : UInt8) (rest : List UInt8) : Front Unit :=
  if byte = 0x2B then
    match rest with
    | 0x2D :: _ => .chars ['+'] 1 ()
    | next :: _ =>
      if (digit? next).isSome then shiftFront openEnded rest else .fault 1 .illFormed
    | [] => shiftFront openEnded rest
  else if byte < 0x80 then .chars [Char.ofNat byte.toNat] 0 ()
  else .fault 0 .specialCharacter

/-- Decodes a text. -/
def decode (reading : Reading) (bytes : List UInt8) : Except ByteFault (List Char) :=
  decodeEach name (front reading.openEnded) reading.lenient bytes

end LineArithmetic.Charset.Utf7
