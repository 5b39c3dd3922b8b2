import LineArithmetic.Charset.EastAsian.Basic
import LineArithmetic.Charset.EastAsian.Big5
import LineArithmetic.Charset.EastAsian.Gb18030
import LineArithmetic.Charset.EastAsian.Gb2312
import LineArithmetic.Charset.EastAsian.Gbk
import LineArithmetic.Charset.EastAsian.Hkscs

/-!
# Chinese character sets

The standards of the mainland, each of which extends the one before it, and Big5
with its extensions.
-/

namespace LineArithmetic.Charset.EastAsian

/-- A character of GB 2312. -/
def gb2312Char? (a b : UInt8) : Option Char :=
  (rowColumn? a b).bind gb2312.char?

/-- A character of GBK. -/
def gbkChar? (a b : UInt8) : Option Char :=
  (gbkExtension.char? (code a b)).or (gb2312Char? a b)

/-- A character of two bytes of GB 18030. -/
def gb18030Char? (a b : UInt8) : Option Char :=
  (gbkChar? a b).or (gb18030Extension.char? (code a b))

/-- The number of the first character of four bytes beyond those of two bytes in
UTF-16. -/
def astralStart : Nat := 15 * 10 * 1260

/-- A character of four bytes of GB 18030.  The bytes are digits of a number in
turn to the base of 126 and 10. -/
def gb18030Long? (a b c d : UInt8) : Option Char :=
  let isHigh (byte : UInt8) : Bool := 0x81 ≤ byte && byte ≤ 0xFE
  let isLow (byte : UInt8) : Bool := 0x30 ≤ byte && byte ≤ 0x39
  if isHigh a && isLow b && isHigh c && isLow d then
    let number := (((a.toNat - 0x81) * 10 + (b.toNat - 0x30)) * 126 + (c.toNat - 0x81)) * 10 +
      (d.toNat - 0x30)
    if number < astralStart then gb18030Ranges.char? number
    else
      let point := 0x10000 + (number - astralStart)
      if point < 0x110000 then some (Char.ofNat point) else none
  else none

/-- What a byte of GB 18030 and the bytes after it start with.  A digit in the
second place announces four bytes. -/
def gb18030Front (a : UInt8) (rest : List UInt8) : Front Unit :=
  match rest with
  | b :: rest =>
    if 0x30 ≤ b ∧ b ≤ 0x39 then
      match rest with
      | c :: d :: _ => found? 3 ((gb18030Long? a b c d).map ([·]))
      | _ => incomplete (b :: rest)
    else found? 1 ((gb18030Char? a b).map ([·]))
  | [] => incomplete []

/-- A character of Big5 as it is used in Hong Kong.  In a part of the rows the
supplement takes the place of Big5. -/
def hkscsChars? (a b : UInt8) : Option (List Char) :=
  let code := code a b
  let char? :=
    if 0xC6A1 ≤ code ∧ code ≤ 0xC8FE then hkscs.char? code
    else (big5.char? code).or (hkscs.char? code)
  match char? with
  | some c => some [c]
  | none => (hkscsPairs.find? fun pair => pair.1 = code).map (·.2.toList)

def gb2312Encoding : Encoding :=
  .ofLookup "gb2312" fun a b => (gb2312Char? a b).map ([·])

def gbkEncoding : Encoding :=
  .ofLookup "gbk" fun a b => (gbkChar? a b).map ([·])

def gb18030Encoding : Encoding :=
  ⟨"gb18030", orAscii gb18030Front⟩

def big5Encoding : Encoding :=
  .ofLookup "big5" fun a b => (big5.char? (code a b)).map ([·])

def cp950Encoding : Encoding :=
  .ofLookup "cp950" fun a b =>
    ((cp950Extension.char? (code a b)).or (big5.char? (code a b))).map ([·])

def hkscsEncoding : Encoding :=
  .ofLookup "big5hkscs" hkscsChars?

end LineArithmetic.Charset.EastAsian
