import LineArithmetic.Charset.EastAsian.Chinese
import LineArithmetic.Charset.EastAsian.Japanese
import LineArithmetic.Charset.EastAsian.Korean
import LineArithmetic.Charset.SingleByte.Iso8859

/-!
# Character sets that switch

Encodings in which bytes below 0x80 stand for different characters in different
parts of a text.  In HZ a tilde and a brace switch to Chinese and back.  In ISO
2022 escape sequences *designate* sets of characters to up to three places, and
shifts choose between the first two of them.
-/

namespace LineArithmetic.Charset.EastAsian

/-! ## HZ -/

/-- What a byte of HZ and the bytes after it start with.  The state is whether
the text is in Chinese. -/
def hzFront (chinese : Bool) (a : UInt8) (rest : List UInt8) : Front Bool :=
  if a = 0x7E then
    match rest, chinese with
    | [], _ => incomplete []
    | 0x7E :: _, false => .chars ['~'] 1 false
    | 0x7B :: _, false => .chars [] 1 true
    | 0x0A :: _, false => .chars [] 1 false
    | 0x7D :: _, true => .chars [] 1 false
    | _, _ => illegal
  else if 0x80 ≤ a then illegal
  else if chinese then
    match rest with
    | [] => incomplete []
    | b :: _ =>
      match gb2312.char? (code a b) with
      | some c => .chars [c] 1 true
      | none => illegal
  else .chars [Char.ofNat a.toNat] 0 false

/-- Decodes a text in HZ. -/
def decodeHz (reading : Reading) (bytes : List UInt8) : Except ByteFault (List Char) :=
  decodeFrom "hz" hzFront reading.lenient false 0 [] bytes

/-! ## ISO 2022 -/

/-- A set of characters that can be designated. -/
structure CharacterSet where
  /-- Whether its characters take two bytes. -/
  isWide : Bool
  /-- The last byte of the escape sequence that designates it. -/
  final : UInt8
  lookup : Nat → Option (List Char)

/-- A set of characters of one code point in a table. -/
def CharacterSet.ofTable (isWide : Bool) (final : UInt8) (table : Table) : CharacterSet :=
  ⟨isWide, final, fun code => (table.char? code).map ([·])⟩

namespace CharacterSet

def ascii : CharacterSet := ⟨false, 0x42, fun code => some [Char.ofNat code]⟩

def roman : CharacterSet :=
  ⟨false, 0x4A, fun code => (romanOrKatakana? (UInt8.ofNat code)).map ([·])⟩

def katakana : CharacterSet :=
  ⟨false, 0x49, fun code => (katakana? (UInt8.ofNat (code + 0x80))).map ([·])⟩

def jis1978 : CharacterSet := .ofTable true 0x40 jisX0208

def jis1983 : CharacterSet := .ofTable true 0x42 jisX0208

def supplement : CharacterSet := .ofTable true 0x44 jisX0212

def chinese : CharacterSet := .ofTable true 0x41 gb2312

def korean : CharacterSet := .ofTable true 0x43 ksX1001

def extended2000 : CharacterSet := ⟨true, 0x4F, firstPlane? .first⟩

def extended2004 : CharacterSet := ⟨true, 0x51, firstPlane? .revised⟩

def secondPlane : CharacterSet := .ofTable true 0x50 jisX0213Second

/-- The upper half of Latin-1, which only the third place can show. -/
def latin1 : CharacterSet := ⟨false, 0x41, fun _ => none⟩

/-- The upper half of the Greek part of ISO 8859, which only the third place can
show. -/
def greek : CharacterSet := ⟨false, 0x46, fun _ => none⟩

end CharacterSet

/-- A member of the family of encodings. -/
structure Switching where
  name : String
  /-- The sets that can be designated beside ASCII. -/
  sets : List CharacterSet
  /-- Whether shifts choose between the first two places. -/
  hasShifts : Bool
  /-- Whether single characters of the third place can be chosen. -/
  hasThirdPlace : Bool
  /-- Whether a revision of a set can be announced in front of its designation. -/
  hasRevisions : Bool

namespace Switching

/-- What is designated and chosen. -/
structure State where
  first : CharacterSet
  second : CharacterSet
  third : CharacterSet
  shifted : Bool
  /-- Whether the text is inside an escape sequence of another kind, which is
  kept as it is. -/
  escaping : Bool

/-- The state at the start of a text. -/
def State.start : State := ⟨.ascii, .ascii, .ascii, false, false⟩

/-- Whether a byte ends an escape sequence. -/
def endsEscape (byte : UInt8) : Bool :=
  0x40 ≤ byte && byte ≤ 0x5A

/-- The longest escape sequence that is looked for, in bytes. -/
def maxEscape : Nat := 15

/-- The bytes of an escape sequence behind the escape character.  An announced
revision does not end it.  `none` if the text ends before. -/
def escapeBytes (hasRevisions : Bool) : Nat → List UInt8 → Option (List UInt8)
  | 0, _ => some []
  | _, [] => none
  | fuel + 1, byte :: rest =>
    if endsEscape byte then some [byte]
    else
      match byte, rest with
      | 0x26, 0x40 :: rest =>
        if hasRevisions then
          match rest with
          | [] => none
          | next :: rest =>
            (escapeBytes hasRevisions (fuel - 2) rest).map (byte :: 0x40 :: next :: ·)
        else (escapeBytes hasRevisions fuel (0x40 :: rest)).map (byte :: ·)
      | _, rest => (escapeBytes hasRevisions fuel rest).map (byte :: ·)

/-- The place that an escape sequence designates a set to, and whether the set
is one of two bytes and its final byte. -/
def designation? (switching : Switching) (bytes : List UInt8) : Option (Nat × Bool × UInt8) :=
  match bytes with
  | [0x24, final] => some (0, true, final)
  | [0x28, final] => some (0, false, final)
  | [0x29, final] => some (1, false, final)
  | [0x2E, final] => if switching.hasThirdPlace then some (2, false, final) else none
  | [0x24, 0x28, final] => some (0, true, final)
  | [0x24, 0x29, final] => some (1, true, final)
  | [0x26, 0x40, 0x1B, 0x24, 0x42] => if switching.hasRevisions then some (0, true, 0x42) else none
  | _ => none

/-- The set of an escape sequence, if the encoding has it. -/
def set? (switching : Switching) (isWide : Bool) (final : UInt8) : Option CharacterSet :=
  (CharacterSet.ascii :: switching.sets).find? fun set => set.isWide = isWide ∧ set.final = final

/-- The state behind a designation. -/
def State.designate (state : State) (place : Nat) (set : CharacterSet) : State :=
  match place with
  | 0 => { state with first := set }
  | 1 => { state with second := set }
  | _ => { state with third := set }

/-- What an escape sequence does, given the bytes behind the escape character. -/
def escapeFront (switching : Switching) (state : State) (rest : List UInt8) : Front State :=
  match escapeBytes switching.hasRevisions maxEscape rest with
  | none => incomplete rest
  | some bytes =>
    if bytes.isEmpty || !endsEscape (bytes.getLastD 0) then illegal
    else
      let set? := (switching.designation? bytes).bind fun (place, isWide, final) =>
        (switching.set? isWide final).map fun set => (place, set)
      match set? with
      | some (place, set) => .chars [] bytes.length (state.designate place set)
      | none => .fault bytes.length .illegalSequence

/-- The codes of the Greek part that later editions added. -/
def laterGreek : List UInt8 := [0xA4, 0xA5, 0xAA]

/-- A single character of the third place. -/
def thirdPlaceChar? (set : CharacterSet) (byte : UInt8) : Option Char :=
  if set.final = CharacterSet.greek.final then
    let code := byte ^^^ 0x80
    if laterGreek.contains code then none else Iso8859.part7.char? code.toNat
  else if set.final = CharacterSet.latin1.final then
    (ascii? byte).map fun c => Char.ofNat (c.toNat + 0x80)
  else ascii? byte

/-- The escape to a single character of the third place. -/
def thirdPlaceFront (state : State) (byte : UInt8) : Front State :=
  match thirdPlaceChar? state.third byte with
  | some c => .chars [c] 2 state
  | none => .fault 2 .illegalSequence

/-- A character of the chosen set. -/
def charFront (state : State) (a : UInt8) (rest : List UInt8) : Front State :=
  let set := if state.shifted then state.second else state.first
  if set.isWide then
    match rest with
    | [] => incomplete []
    | b :: _ =>
      match set.lookup (code a b) with
      | some cs => .chars cs 1 state
      | none => .fault 1 .illegalSequence
  else
    match set.lookup a.toNat with
    | some cs => .chars cs 0 state
    | none => illegal

/-- What a byte and the bytes after it start with. -/
def front (switching : Switching) (state : State) (a : UInt8) (rest : List UInt8) :
    Front State :=
  let self : List Char := [Char.ofNat a.toNat]
  if state.escaping then .chars self 0 { state with escaping := !endsEscape a }
  else if a = 0x1B then
    match rest with
    | [] => incomplete []
    | b :: more =>
      if [0x28, 0x29, 0x24, 0x2E, 0x26].contains b then switching.escapeFront state rest
      else if switching.hasThirdPlace ∧ b = 0x4E then
        match more with
        | [] => incomplete rest
        | c :: _ => thirdPlaceFront state c
      else .chars self 0 { state with escaping := true }
  else if a = 0x0F ∧ switching.hasShifts then .chars [] 0 { state with shifted := false }
  else if a = 0x0E ∧ switching.hasShifts then .chars [] 0 { state with shifted := true }
  else if a = 0x0A then .chars self 0 { state with shifted := false }
  else if a < 0x20 then .chars self 0 state
  else if 0x80 ≤ a then illegal
  else charFront state a rest

/-- Decodes a text. -/
def decode (switching : Switching) (reading : Reading) (bytes : List UInt8) :
    Except ByteFault (List Char) :=
  decodeFrom switching.name switching.front reading.lenient .start 0 [] bytes

end Switching

/-- The sets that most Japanese members of the family have. -/
def japaneseSets : List CharacterSet :=
  [.jis1983, .roman, .jis1978]

/-- A Japanese member of the family. -/
def Switching.ofSets (name : String) (sets : List CharacterSet) : Switching :=
  ⟨name, sets, false, false, true⟩

def iso2022Jp : Switching := .ofSets "iso2022_jp" japaneseSets

def iso2022Jp1 : Switching := .ofSets "iso2022_jp_1" (japaneseSets ++ [.supplement])

def iso2022Jp2 : Switching :=
  { Switching.ofSets "iso2022_jp_2"
      (japaneseSets ++ [.supplement, .korean, .chinese, .latin1, .greek]) with
    hasThirdPlace := true }

def iso2022Jp3 : Switching :=
  .ofSets "iso2022_jp_3" [.jis1983, .extended2000, .secondPlane]

def iso2022Jp2004 : Switching :=
  .ofSets "iso2022_jp_2004" [.jis1983, .extended2004, .secondPlane]

def iso2022JpExt : Switching :=
  .ofSets "iso2022_jp_ext" (japaneseSets ++ [.supplement, .katakana])

def iso2022Kr : Switching := ⟨"iso2022_kr", [.korean], true, false, false⟩

end LineArithmetic.Charset.EastAsian
