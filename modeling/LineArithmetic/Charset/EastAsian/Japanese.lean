import LineArithmetic.Charset.EastAsian.Basic
import LineArithmetic.Charset.EastAsian.Cp932
import LineArithmetic.Charset.EastAsian.JisX0208
import LineArithmetic.Charset.EastAsian.JisX0212
import LineArithmetic.Charset.EastAsian.JisX0213

/-!
# Japanese character sets

The standards in two clothings: Shift JIS squeezes two rows into the codes of
one first byte and leaves room for halfwidth letters of one byte, and EUC sets
the high bits of row and column and announces other standards by a byte of its
own.
-/

namespace LineArithmetic.Charset.EastAsian

/-- A halfwidth katakana letter of one byte. -/
def katakana? (byte : UInt8) : Option Char :=
  if 0xA1 ≤ byte ∧ byte ≤ 0xDF then some (Char.ofNat (0xFF61 + (byte.toNat - 0xA1))) else none

/-! ## The extended standard -/

/-- An edition of the extended standard. -/
inductive Edition where
  | first
  | revised
  deriving DecidableEq, Repr

/-- The places of the first plane that only the revised edition fills. -/
def revisedPlaces : List Nat :=
  [0x2E21, 0x2F7E, 0x4F54, 0x4F7E, 0x7427, 0x7E7A, 0x7E7B, 0x7E7C, 0x7E7D, 0x7E7E]

/-- The characters at a place of the first plane. -/
def firstPlane? (edition : Edition) (place : Nat) : Option (List Char) :=
  if edition = .first ∧ revisedPlaces.contains place then none
  else
    match (jisX0208.char? place).or (jisX0213First.char? place) with
    | some c => some [c]
    | none => (jisX0213Pairs.find? fun pair => pair.1 = place).map (·.2.toList)

/-- What two bytes are that name a place of the first plane.  A place that the
edition leaves out makes a fault of both. -/
def firstPlaneFront (edition : Edition) (place : Nat) : Front Unit :=
  if edition = .first ∧ revisedPlaces.contains place then .fault 1 .illegalSequence
  else found? 1 (firstPlane? edition place)

/-- The character at a place of the second plane; one of them was revised. -/
def secondPlane? (edition : Edition) (place : Nat) : Option Char :=
  if edition = .first ∧ place = 0x7D3B then some '鬝' else jisX0213Second.char? place

/-! ## Shift JIS -/

/-- The row, counted from zero, and the column of two bytes of Shift JIS. -/
def shifted? (a b : UInt8) : Option (Nat × Nat) :=
  let lead :=
    if 0x81 ≤ a ∧ a ≤ 0x9F then some (a.toNat - 0x81)
    else if 0xE0 ≤ a ∧ a ≤ 0xFC then some (a.toNat - 0xC1)
    else none
  let trail :=
    if 0x40 ≤ b ∧ b ≤ 0x7E then some (b.toNat - 0x40)
    else if 0x80 ≤ b ∧ b ≤ 0xFC then some (b.toNat - 0x41)
    else none
  match lead, trail with
  | some lead, some trail => some (2 * lead + trail / 94, trail % 94 + 0x21)
  | _, _ => none

/-- The place of a row, counted from zero, and a column. -/
def place (row column : Nat) : Nat :=
  (row + 0x21) * 0x100 + column

/-- A character of two bytes of Shift JIS. -/
def shiftJisChar? (a b : UInt8) : Option Char :=
  (shifted? a b).bind fun (row, column) => jisX0208.char? (place row column)

/-- What a byte and the bytes after it start with, given the characters of one
byte, the first bytes of two and what two bytes are. -/
def shiftFront (single? : UInt8 → Option Char) (isLead : UInt8 → Bool)
    (pair : UInt8 → UInt8 → Front Unit) (a : UInt8) (rest : List UInt8) : Front Unit :=
  match single? a with
  | some c => .chars [c] 0 ()
  | none => if isLead a then twoBytes pair a rest else illegal

/-- Whether a byte starts two bytes of Shift JIS. -/
def isShiftLead (a : UInt8) : Bool :=
  (0x81 ≤ a && a ≤ 0x9F) || (0xE0 ≤ a && a ≤ 0xEA)

/-- Whether a byte starts two bytes of Shift JIS with the extended standard. -/
def isLongShiftLead (a : UInt8) : Bool :=
  isShiftLead a || (0xEB ≤ a && a ≤ 0xFC)

/-- The character of one byte: ASCII or a halfwidth letter. -/
def asciiOrKatakana? (a : UInt8) : Option Char :=
  (ascii? a).or (katakana? a)

/-- The character of one byte: the Japanese variant of ASCII or a halfwidth letter. -/
def romanOrKatakana? (a : UInt8) : Option Char :=
  if a = 0x5C then some '¥' else if a = 0x7E then some '‾' else asciiOrKatakana? a

/-- The character of one byte of the code page of Windows. -/
def cp932Single? (a : UInt8) : Option Char :=
  if a ≤ 0x80 then some (Char.ofNat a.toNat)
  else if a = 0xA0 then some '\uf8f0'
  else if 0xFD ≤ a then some (Char.ofNat (0xF8F1 + (a.toNat - 0xFD)))
  else katakana? a

/-- A character of two bytes of the code page of Windows.  Ten first bytes are
left to private use. -/
def cp932Char? (a b : UInt8) : Option Char :=
  match cp932Extension.char? (code a b) with
  | some c => some c
  | none =>
    if a ≤ 0xEA then shiftJisChar? a b
    else if 0xF0 ≤ a ∧ a ≤ 0xF9 then
      (shifted? a b).map fun (row, column) =>
        Char.ofNat (0xE000 + 94 * (row - 94) + (column - 0x21))
    else none

/-- The row of the second plane for a row of Shift JIS behind the first plane. -/
def secondPlaneRow (row : Nat) : Nat :=
  if 0x67 ≤ row then row + 0x07
  else if 0x63 ≤ row ∨ row = 0x5F then row - 0x37
  else row - 0x3D

/-- What two bytes of Shift JIS are with the extended standard.  The backslash is
not a wide one. -/
def extendedShiftPair (edition : Edition) (a b : UInt8) : Front Unit :=
  match shifted? a b with
  | none => illegal
  | some (row, column) =>
    if place row column = 0x2140 then .chars ['\\'] 1 ()
    else if row < 94 then firstPlaneFront edition (place row column)
    else found? 1 ((secondPlane? edition (secondPlaneRow row * 0x100 + column)).map ([·]))

/-! ## EUC -/

/-- What two bytes are that name a place in row and column. -/
def placeFront (front : Nat → Front Unit) (a b : UInt8) : Front Unit :=
  match rowColumn? a b with
  | some place => front place
  | none => illegal

/-- What a byte of EUC and the bytes after it start with, given what two bytes
are and the characters of three. -/
def eucFront (pair : Nat → Front Unit) (third? : Nat → Option Char) (a : UInt8)
    (rest : List UInt8) : Front Unit :=
  if a = 0x8E then twoBytes (fun _ b => found? 1 ((katakana? b).map ([·]))) a rest
  else if a = 0x8F then
    match rest with
    | b :: c :: _ => found? 2 (((rowColumn? b c).bind third?).map ([·]))
    | _ => incomplete rest
  else twoBytes (placeFront pair) a rest

/-- What two bytes of EUC are with the extended standard.  The tilde is a wide
one. -/
def extendedEucPair (edition : Edition) (place : Nat) : Front Unit :=
  if place = 0x2232 then .chars ['～'] 1 () else firstPlaneFront edition place

/-- The character at a place of the second plane, or of the older supplement
where that plane is empty. -/
def secondPlaneOrOlder? (edition : Edition) (place : Nat) : Option Char :=
  (secondPlane? edition place).or (jisX0212.char? place)

/-- What two bytes are that may be a character of one code point. -/
def charPair (lookup : UInt8 → UInt8 → Option Char) (a b : UInt8) : Front Unit :=
  found? 1 ((lookup a b).map ([·]))

def shiftJisEncoding : Encoding :=
  ⟨"shift_jis", shiftFront asciiOrKatakana? isShiftLead (charPair shiftJisChar?)⟩

def cp932Encoding : Encoding :=
  ⟨"cp932", shiftFront cp932Single? (fun _ => true) (charPair cp932Char?)⟩

def shiftJisx0213Encoding : Encoding :=
  ⟨"shift_jisx0213", shiftFront romanOrKatakana? isLongShiftLead (extendedShiftPair .first)⟩

def shiftJis2004Encoding : Encoding :=
  ⟨"shift_jis_2004", shiftFront romanOrKatakana? isLongShiftLead (extendedShiftPair .revised)⟩

def eucJpEncoding : Encoding :=
  ⟨"euc_jp", orAscii (eucFront (fun place => found? 1 ((jisX0208.char? place).map ([·])))
    jisX0212.char?)⟩

def eucJisx0213Encoding : Encoding :=
  ⟨"euc_jisx0213", orAscii (eucFront (extendedEucPair .first) (secondPlaneOrOlder? .first))⟩

def eucJis2004Encoding : Encoding :=
  ⟨"euc_jis_2004", orAscii (eucFront (extendedEucPair .revised) (secondPlaneOrOlder? .revised))⟩

end LineArithmetic.Charset.EastAsian
