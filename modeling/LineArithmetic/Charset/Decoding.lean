import LineArithmetic.Text.Hex

/-!
# Decoding bytes

What all character sets share.  A character set says what the bytes at the
front of a text are (`Front`): characters, bytes that cannot be read, or the
start of a character that the end of the bytes cuts off.  `decodeFrom` goes on from
front to front until the bytes are used up.

A fault names the bytes that cannot be read and where they stand.  `Reading`
says what becomes of them: a strict reading ends with the fault, a lenient one
puts the replacement character in their place.  A text that arrives in pieces is
read *open ended*: a character that the end cuts off is still to come and is
left out without a fault.
-/

namespace LineArithmetic.Charset

open Text

/-- Why bytes cannot be read. -/
inductive Reason where
  /-- A byte that starts no character. -/
  | invalidStart
  /-- A byte that cannot continue what stands before it. -/
  | invalidContinuation
  /-- The text ends in the middle of a character. -/
  | unexpectedEnd
  | truncatedData
  /-- The second half of a surrogate pair without the first. -/
  | loneLow
  /-- The first half of a surrogate pair without the second. -/
  | loneHigh
  | surrogate
  | outOfRange
  | notAscii
  /-- A byte that stands for nothing. -/
  | unmapped
  | illegalSequence
  | incompleteSequence
  | specialCharacter
  | illFormed
  | partialCharacter
  | nonzeroPadding
  | unterminatedShift
  | finalBackslash
  /-- An escape by number of a kind that a letter names, with too few digits. -/
  | truncatedEscape (letter : Char) (digits : Nat)
  | illegalEscape
  | longEscapeOutOfRange
  | malformedName
  | unknownName
  deriving DecidableEq, Repr

def Reason.text : Reason → String
  | .invalidStart => "invalid start byte"
  | .invalidContinuation => "invalid continuation byte"
  | .unexpectedEnd => "unexpected end of data"
  | .truncatedData => "truncated data"
  | .loneLow => "illegal encoding"
  | .loneHigh => "illegal UTF-16 surrogate"
  | .surrogate => "code point in surrogate code point range(0xd800, 0xe000)"
  | .outOfRange => "code point not in range(0x110000)"
  | .notAscii => "ordinal not in range(128)"
  | .unmapped => "character maps to <undefined>"
  | .illegalSequence => "illegal multibyte sequence"
  | .incompleteSequence => "incomplete multibyte sequence"
  | .specialCharacter => "unexpected special character"
  | .illFormed => "ill-formed sequence"
  | .partialCharacter => "partial character in shift sequence"
  | .nonzeroPadding => "non-zero padding bits in shift sequence"
  | .unterminatedShift => "unterminated shift sequence"
  | .finalBackslash => "\\ at end of string"
  | .truncatedEscape letter digits =>
    "truncated \\" ++ String.ofList (letter :: List.replicate digits 'X') ++ " escape"
  | .illegalEscape => "illegal Unicode character"
  | .longEscapeOutOfRange => "\\Uxxxxxxxx out of range"
  | .malformedName => "malformed \\N character escape"
  | .unknownName => "unknown Unicode character name"

/-- The bytes from position `first` on, `length` of them, the first of which is
`byte`, cannot be read. -/
structure ByteFault where
  charset : String
  byte : UInt8
  first : Nat
  length : Nat
  reason : Reason
  deriving DecidableEq, Repr

/-- The fault in words: the byte itself if it is a single one, and the place. -/
def ByteFault.message (fault : ByteFault) : String :=
  let place :=
    if fault.length = 1 then
      "byte 0x" ++ String.ofList (hex 2 fault.byte.toNat) ++ " in position " ++
        toString fault.first
    else
      "bytes in position " ++ toString fault.first ++ "-" ++
        toString (fault.first + fault.length - 1)
  "'" ++ fault.charset ++ "' codec can't decode " ++ place ++ ": " ++ fault.reason.text

/-- Why bytes are no text. -/
inductive Fault where
  | unreadable (fault : ByteFault)
  /-- A text in an encoding with a mark at its start does not have one. -/
  | unmarked (encoding : String)
  | invalidDigit (digit : Char)
  | incompleteNumber
  | invalidCharacter (number : Nat)
  /-- A label of a domain name is no punycode. -/
  | inLabel (fault : Fault)
  /-- An encoding in which nothing can be replaced. -/
  | irreparable
  deriving DecidableEq, Repr

/-- A fault of an encoding other than unreadable bytes, as it is passed on. -/
def wrappedMessage (encoding message : String) : String :=
  "decoding with '" ++ encoding ++ "' codec failed (UnicodeError: " ++ message ++ ")"

/-- What is said about an encoding that is not defined for any text. -/
def undefinedMessage : String := "undefined encoding"

/-- The fault in words. -/
def Fault.message : Fault → String
  | .unreadable fault => fault.message
  | .unmarked encoding => encoding ++ " stream does not start with BOM"
  | .invalidDigit digit => "Invalid extended code point '" ++ String.ofList [digit] ++ "'"
  | .incompleteNumber => "incomplete punicode string"
  | .invalidCharacter number =>
    "Invalid character U+" ++ String.ofList (Nat.toDigits 16 number)
  | .inLabel (.unreadable fault) => fault.message
  | .inLabel fault => wrappedMessage "punycode" fault.message
  | .irreparable => "Unsupported error handling replace"

/-- How a text is read. -/
structure Reading where
  /-- Whether the text may go on after its last byte. -/
  openEnded : Bool
  /-- Whether what cannot be read is replaced. -/
  lenient : Bool
  deriving DecidableEq, Repr

/-- A whole text without faults. -/
def Reading.strict : Reading := ⟨false, false⟩

/-- A text that may go on after its last byte. -/
def Reading.ofStream : Reading := ⟨true, false⟩

/-- A whole text whose faults are replaced. -/
def Reading.repairing : Reading := ⟨false, true⟩

/-- The character that stands in the place of bytes that cannot be read. -/
def replacementChar : Char := '\uFFFD'

/-- What the bytes at the front of a text are.  Every number of bytes counts
those after the first one. -/
inductive Front (σ : Type) where
  /-- Characters and the state behind them. -/
  | chars (cs : List Char) (more : Nat) (state : σ)
  | fault (more : Nat) (reason : Reason)
  /-- An open ended text stops here. -/
  | stop
  deriving Repr

/-- Decodes the bytes that stand at a position; the characters before them are
given last one first. -/
def decodeFrom {σ : Type} (charset : String) (front : σ → UInt8 → List UInt8 → Front σ)
    (lenient : Bool) (state : σ) (position : Nat) (before : List Char) :
    List UInt8 → Except ByteFault (List Char)
  | [] => .ok before.reverse
  | byte :: rest =>
    match front state byte rest with
    | .chars cs more state =>
      decodeFrom charset front lenient state (position + 1 + more) (cs.reverse ++ before)
        (rest.drop more)
    | .fault more reason =>
      if lenient then
        decodeFrom charset front lenient state (position + 1 + more) (replacementChar :: before)
          (rest.drop more)
      else .error ⟨charset, byte, position, more + 1, reason⟩
    | .stop => .ok before.reverse
  termination_by bytes => bytes.length
  decreasing_by all_goals (simp only [List.length_cons, List.length_drop]; omega)

/-- Decodes a text in a character set that needs no state. -/
def decodeEach (charset : String) (front : UInt8 → List UInt8 → Front Unit) (lenient : Bool)
    (bytes : List UInt8) : Except ByteFault (List Char) :=
  decodeFrom charset (fun _ => front) lenient () 0 [] bytes

/-- The character of one byte, or a fault of that byte. -/
def Front.ofChar? (reason : Reason) : Option Char → Front Unit
  | some c => .chars [c] 0 ()
  | none => .fault 0 reason

/-- The character of a byte below 0x80. -/
def ascii? (byte : UInt8) : Option Char :=
  if byte < 0x80 then some (Char.ofNat byte.toNat) else none

/-- Decodes a text in ASCII. -/
def decodeAscii (lenient : Bool) (bytes : List UInt8) : Except ByteFault (List Char) :=
  decodeEach "ascii" (fun byte _ => .ofChar? .notAscii (ascii? byte)) lenient bytes

end LineArithmetic.Charset
