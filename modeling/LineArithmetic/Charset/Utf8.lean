import LineArithmetic.Charset.Decoding

/-!
# UTF-8

A fault is a byte that starts no character, a start followed by a byte that
cannot continue it, or a start that the text ends in the middle of.
-/

namespace LineArithmetic.Charset.Utf8

/-- How the encoding is called in messages. -/
def name : String := "utf-8"

/-- The ranges that the bytes after a first byte must lie in, and the bits
that the first byte contributes; `none` for a byte that starts no character. -/
def continuationRanges (byte : UInt8) : Option (Nat × List (UInt8 × UInt8)) :=
  let tail : UInt8 × UInt8 := (0x80, 0xBF)
  if byte < 0x80 then some (byte.toNat, [])
  else if byte < 0xC2 then none
  else if byte < 0xE0 then some (byte.toNat - 0xC0, [tail])
  else if byte < 0xF0 then
    let second := if byte = 0xE0 then (0xA0, 0xBF) else if byte = 0xED then (0x80, 0x9F) else tail
    some (byte.toNat - 0xE0, [second, tail])
  else if byte < 0xF5 then
    let second := if byte = 0xF0 then (0x90, 0xBF) else if byte = 0xF4 then (0x80, 0x8F) else tail
    some (byte.toNat - 0xF0, [second, tail, tail])
  else none

/-- Reads the bytes after the first one; `done` of them have been read. -/
def continuation (done code : Nat) : List (UInt8 × UInt8) → List UInt8 → Front Unit
  | [], _ => .chars [Char.ofNat code] done ()
  | _ :: _, [] => .fault done .unexpectedEnd
  | (low, high) :: ranges, byte :: rest =>
    if low ≤ byte ∧ byte ≤ high then
      continuation (done + 1) (code * 64 + (byte.toNat - 0x80)) ranges rest
    else .fault done .invalidContinuation

/-- What a byte and the bytes after it start with. -/
def front (byte : UInt8) (rest : List UInt8) : Front Unit :=
  match continuationRanges byte with
  | none => .fault 0 .invalidStart
  | some (code, ranges) => continuation 0 code ranges rest

/-- Whether the last bytes of an open ended text are no fault: they are the
start of a character, or of what would be half of a surrogate pair. -/
def mayStop (byte : UInt8) (rest : List UInt8) : Reason → Bool
  | .unexpectedEnd => true
  | .invalidContinuation =>
    byte == 0xED && match rest with
      | [second] => 0xA0 ≤ second && second ≤ 0xBF
      | _ => false
  | _ => false

/-- What the bytes of an open ended text start with. -/
def openFront (byte : UInt8) (rest : List UInt8) : Front Unit :=
  match front byte rest with
  | .fault more reason => if mayStop byte rest reason then .stop else .fault more reason
  | other => other

/-- Decodes a text. -/
def decode (reading : Reading) (bytes : List UInt8) : Except ByteFault (List Char) :=
  decodeEach name (if reading.openEnded then openFront else front) reading.lenient bytes

/-- The bytes of the mark that may stand at the start of a text. -/
def mark : List UInt8 := [0xEF, 0xBB, 0xBF]

/-- Decodes a text without the mark at its start. -/
def decodeMarked (reading : Reading) (bytes : List UInt8) : Except ByteFault (List Char) :=
  decode reading (if mark.isPrefixOf bytes then bytes.drop 3 else bytes)

end LineArithmetic.Charset.Utf8
