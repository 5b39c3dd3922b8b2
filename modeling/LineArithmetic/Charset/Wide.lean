import LineArithmetic.Charset.Decoding
import LineArithmetic.Text.CodePoint

/-!
# UTF-16 and UTF-32

Two or four bytes at a time, in one of two orders.  A surrogate that is not part
of a pair is a fault.  The order of the bytes is agreed upon, or a mark at the
start of the text shows it; without a mark the lowest byte comes first, but a
text that arrives in pieces must have one.
-/

namespace LineArithmetic.Charset

open Text

/-- Which of several bytes comes first. -/
inductive ByteOrder where
  | little
  | big
  deriving DecidableEq, Repr

namespace ByteOrder

/-- How a byte order is called. -/
def name : ByteOrder → String
  | .little => "le"
  | .big => "be"

/-- The number that bytes spell. -/
def number (order : ByteOrder) (bytes : List UInt8) : Nat :=
  let ordered := match order with
    | .little => bytes.reverse
    | .big => bytes
  ordered.foldl (fun value byte => value * 0x100 + byte.toNat) 0

end ByteOrder

/-- A text whose end cuts a character off. -/
def cutOff (openEnded : Bool) (more : Nat) (reason : Reason) : Front Unit :=
  if openEnded then .stop else .fault more reason

/-- What two bytes of UTF-16 and the bytes after them start with. -/
def front16 (order : ByteOrder) (openEnded : Bool) (a : UInt8) :
    List UInt8 → Front Unit
  | [] => cutOff openEnded 0 .truncatedData
  | b :: rest =>
    let point := CodePoint.ofNat (order.number [a, b])
    if point.isLowSurrogate then .fault 1 .loneLow
    else if point.isHighSurrogate then
      match rest with
      | c :: d :: _ =>
        let low := CodePoint.ofNat (order.number [c, d])
        if low.isLowSurrogate then .chars (point.joinSurrogates low).toChar?.toList 3 ()
        else .fault 1 .loneHigh
      | _ => cutOff openEnded (1 + rest.length) .unexpectedEnd
    else .chars point.toChar?.toList 1 ()

/-- What four bytes of UTF-32 start with. -/
def front32 (order : ByteOrder) (openEnded : Bool) (a : UInt8) :
    List UInt8 → Front Unit
  | b :: c :: d :: _ =>
    match CodePoint.ofNat? (order.number [a, b, c, d]) with
    | none => .fault 3 .outOfRange
    | some point =>
      match point.toChar? with
      | none => .fault 3 .surrogate
      | some char => .chars [char] 3 ()
  | rest => cutOff openEnded rest.length .truncatedData

/-- An encoding in which every character takes at least `width` bytes. -/
structure WideEncoding where
  name : String
  width : Nat
  front : ByteOrder → Bool → UInt8 → List UInt8 → Front Unit

def utf16 : WideEncoding := ⟨"utf-16", 2, front16⟩

def utf32 : WideEncoding := ⟨"utf-32", 4, front32⟩

namespace WideEncoding

/-- Decodes the bytes of a text from a position on. -/
def decodeAt (encoding : WideEncoding) (order : ByteOrder) (reading : Reading)
    (position : Nat) (bytes : List UInt8) : Except ByteFault (List Char) :=
  decodeFrom (encoding.name ++ "-" ++ order.name)
    (fun _ => encoding.front order reading.openEnded) reading.lenient () position [] bytes

/-- Decodes a text of a byte order. -/
def decode (encoding : WideEncoding) (order : ByteOrder) (reading : Reading)
    (bytes : List UInt8) : Except ByteFault (List Char) :=
  encoding.decodeAt order reading 0 bytes

/-- The number of the mark. -/
def mark : Nat := 0xFEFF

/-- The byte order that the mark at the start of a text shows. -/
def markedOrder? (encoding : WideEncoding) (bytes : List UInt8) : Option ByteOrder :=
  if bytes.length < encoding.width then none
  else [.little, .big].find? fun order => order.number (bytes.take encoding.width) = mark

/-- Decodes a text that shows its byte order. -/
def decodeMarked (encoding : WideEncoding) (reading : Reading) (bytes : List UInt8) :
    Except Fault (List Char) :=
  match encoding.markedOrder? bytes with
  | some order =>
    (encoding.decodeAt order reading encoding.width (bytes.drop encoding.width)).mapError
      .unreadable
  | none =>
    match encoding.decode .little reading bytes with
    | .error fault => .error (.unreadable fault)
    | .ok chars =>
      if reading.openEnded && !chars.isEmpty then
        .error (.unmarked (String.ofList (encoding.name.toList.map Char.toUpper)))
      else .ok chars

end WideEncoding

end LineArithmetic.Charset
