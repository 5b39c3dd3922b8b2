import LineArithmetic.Charset.EastAsian.Switching
import LineArithmetic.Charset.Escaped
import LineArithmetic.Charset.Punycode
import LineArithmetic.Charset.SingleByte.Dos
import LineArithmetic.Charset.SingleByte.Ebcdic
import LineArithmetic.Charset.SingleByte.Macintosh
import LineArithmetic.Charset.SingleByte.National
import LineArithmetic.Charset.SingleByte.Windows
import LineArithmetic.Charset.Utf7
import LineArithmetic.Charset.Utf8

/-!
# Character sets

The encodings of text, each with its reader.
-/

namespace LineArithmetic

open Charset in
/-- How bytes stand for characters. -/
inductive Charset where
  | utf8
  /-- UTF-8 with a mark at the start that is no part of the text. -/
  | markedUtf8
  | wide (encoding : WideEncoding) (order : ByteOrder)
  /-- An encoding with a mark at the start that shows the byte order. -/
  | markedWide (encoding : WideEncoding)
  | utf7
  | ascii
  | latin1
  /-- Text with the escapes of string literals. -/
  | escaped
  /-- Text with escapes by number only. -/
  | plainEscaped
  | punycode
  | domainName
  | singleByte (table : Table)
  | multiByte (encoding : EastAsian.Encoding)
  | hz
  | switching (encoding : EastAsian.Switching)

namespace Charset

/-- Decodes a text. -/
def decode (charset : Charset) (reading : Reading) (bytes : List UInt8) :
    Except Fault (List Char) :=
  match charset with
  | .utf8 => (Utf8.decode reading bytes).mapError .unreadable
  | .markedUtf8 => (Utf8.decodeMarked reading bytes).mapError .unreadable
  | .wide encoding order => (encoding.decode order reading bytes).mapError .unreadable
  | .markedWide encoding => encoding.decodeMarked reading bytes
  | .utf7 => (Utf7.decode reading bytes).mapError .unreadable
  | .ascii => (decodeAscii reading.lenient bytes).mapError .unreadable
  | .latin1 => .ok (bytes.map fun byte => Char.ofNat byte.toNat)
  | .escaped => (Escaped.decodeFull reading bytes).mapError .unreadable
  | .plainEscaped => (Escaped.decodePlain reading bytes).mapError .unreadable
  | .punycode => Punycode.decode reading.lenient bytes
  | .domainName => Punycode.decodeLabels reading.lenient bytes
  | .singleByte table => (table.decode reading bytes).mapError .unreadable
  | .multiByte encoding => (encoding.decode reading bytes).mapError .unreadable
  | .hz => (EastAsian.decodeHz reading bytes).mapError .unreadable
  | .switching encoding => (encoding.decode reading bytes).mapError .unreadable

end Charset

end LineArithmetic
