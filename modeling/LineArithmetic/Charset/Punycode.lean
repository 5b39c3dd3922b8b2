import LineArithmetic.Charset.Decoding
import LineArithmetic.Text.CodePoint

/-!
# Punycode

A text in ASCII whose last minus sign separates the characters that stand for
themselves from numbers.  Each number says how far on from the last insertion
the next one is, counted through all places of the text so far for one character
after another.  The digits have thresholds that adapt to the numbers, so a
number ends at its first digit below the threshold.

Domain names are decoded label by label; only labels with a prefix are punycode.
-/

namespace LineArithmetic.Charset.Punycode

open Text

/-- The value of a digit. -/
def digit? (c : Char) : Option Nat :=
  if c.isUpper then some (c.toNat - 'A'.toNat)
  else if c.isDigit then some (c.toNat - '0'.toNat + 26)
  else none

/-- The threshold of the digit at a place of a number. -/
def threshold (place bias : Nat) : Nat :=
  max 1 (min 26 (36 * (place + 1) - bias))

/-- Reads one number.  `value` is the value of the digits so far and `weight`
that of the next one. -/
def number (bias place weight value : Nat) : List Char → Except Fault (Nat × List Char)
  | [] => .error .incompleteNumber
  | c :: cs =>
    match digit? c with
    | none => .error (.invalidDigit c)
    | some digit =>
      let t := threshold place bias
      let value := value + digit * weight
      if digit < t then .ok (value, cs)
      else number bias (place + 1) (weight * (36 - t)) value cs

/-- Reading a number takes at least one digit. -/
theorem length_lt_of_number {bias place weight value n : Nat} {cs rest : List Char}
    (h : number bias place weight value cs = .ok (n, rest)) : rest.length < cs.length := by
  induction cs generalizing place weight value with
  | nil => simp [number] at h
  | cons c cs ih =>
    unfold number at h
    split at h
    · cases h
    · simp only at h
      split at h
      · cases h
        simp
      · have := ih h
        simp only [List.length_cons]
        omega

/-- Scales a number down to the range of the thresholds. -/
def scaleDown (delta divisions : Nat) : Nat × Nat :=
  if 455 < delta then scaleDown (delta / 35) (divisions + 36) else (delta, divisions)
  termination_by delta
  decreasing_by omega

/-- The bias behind a number, for a text of `length` characters. -/
def adapt (delta : Nat) (isFirst : Bool) (length : Nat) : Nat :=
  let delta := if isFirst then delta / 700 else delta / 2
  let (delta, divisions) := scaleDown (delta + delta / length) 0
  divisions + 36 * delta / (delta + 38)

/-- The character of a number. -/
def charOf? (n : Nat) : Option Char :=
  (CodePoint.ofNat? n).bind CodePoint.toChar?

/-- Inserts the characters that the numbers tell.  `next` is the place where the
next character would be if its number were zero.  Behind a digit that cannot be
read nothing can be inserted any more. -/
def insertAll (lenient isFirst : Bool) (bias char next : Nat) (text : List Char) :
    List Char → Except Fault (List Char)
  | [] => .ok text
  | c :: cs =>
    match _h : number bias 0 1 0 (c :: cs) with
    | .error fault => if lenient then .ok text else .error fault
    | .ok (delta, rest) =>
      let places := text.length + 1
      let char := char + (next + delta) / places
      let place := (next + delta) % places
      let insert (char : Nat) : Except Fault (List Char) :=
        insertAll lenient false (adapt delta isFirst places) char (place + 1)
          (text.take place ++ (charOf? char).getD replacementChar :: text.drop place) rest
      if char < 0x110000 then insert char
      else if lenient then insert '?'.toNat
      else .error (.invalidCharacter char)
  termination_by cs => cs.length
  decreasing_by exact length_lt_of_number ‹_›

/-- Decodes a text. -/
def decode (lenient : Bool) (bytes : List UInt8) : Except Fault (List Char) :=
  let numbers := (bytes.reverse.takeWhile (· != 0x2D)).reverse
  let kept := bytes.take (bytes.length - numbers.length - 1)
  match decodeAscii lenient kept, decodeAscii false numbers with
  | .error fault, _ | .ok _, .error fault => .error (.unreadable fault)
  | .ok text, .ok digits =>
    insertAll lenient true 72 0x80 0 text (digits.map Char.toUpper)

/-- The prefix of a label in punycode. -/
def labelPrefix : List UInt8 := [0x78, 0x6E, 0x2D, 0x2D]

/-- One byte further to the left: a point ends a label. -/
def consLabel (byte : UInt8) : List (List UInt8) → List (List UInt8)
  | [] => [[byte]]
  | label :: labels =>
    if byte = 0x2E then [] :: label :: labels else (byte :: label) :: labels

/-- Decodes a label. -/
def decodeLabel (label : List UInt8) : Except Fault (List Char) :=
  if labelPrefix.isPrefixOf label then
    (decode false (label.drop labelPrefix.length)).mapError .inLabel
  else (decodeAscii false label).mapError .unreadable

/-- Decodes a domain name. -/
def decodeLabels (lenient : Bool) (bytes : List UInt8) : Except Fault (List Char) :=
  if lenient && !bytes.isEmpty then .error .irreparable
  else ((bytes.foldr consLabel [[]]).mapM decodeLabel).map (['.'].intercalate ·)

end LineArithmetic.Charset.Punycode
