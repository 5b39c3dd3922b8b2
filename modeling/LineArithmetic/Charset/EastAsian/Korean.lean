import LineArithmetic.Charset.EastAsian.Basic
import LineArithmetic.Charset.EastAsian.KsX1001

/-!
# Korean character sets

A syllable consists of an initial, a vowel and perhaps a final.  The standard
lists the most frequent syllables; EUC spells the others letter by letter, the
unified code gives them the codes in between in their order, and Johab writes
every syllable as the numbers of its letters.
-/

namespace LineArithmetic.Charset.EastAsian

/-- The initials in their order, as letters. -/
def initials : List Char := "ㄱㄲㄴㄷㄸㄹㅁㅂㅃㅅㅆㅇㅈㅉㅊㅋㅌㅍㅎ".toList

/-- The number of vowels. -/
def vowelCount : Nat := 21

/-- The letter of a vowel. -/
def vowelLetter (vowel : Nat) : Char :=
  Char.ofNat (0x314F + vowel)

/-- The finals in their order, as letters. -/
def finals : List Char := "ㄱㄲㄳㄴㄵㄶㄷㄹㄺㄻㄼㄽㄾㄿㅀㅁㅂㅄㅅㅆㅇㅈㅊㅋㅌㅍㅎ".toList

/-- The syllable of an initial, a vowel and a final; without final that number
is zero. -/
def syllable (initial vowel final : Nat) : Char :=
  Char.ofNat (0xAC00 + (initial * vowelCount + vowel) * 28 + final)

/-! ## EUC -/

/-- A character of the standard. -/
def ksX1001Char? (a b : UInt8) : Option Char :=
  (rowColumn? a b).bind ksX1001.char?

/-- The letter of a column in the row of letters. -/
def letterOf? (b : UInt8) : Option Char :=
  if 0xA1 ≤ b ∧ b ≤ 0xBE then some (Char.ofNat (0x3131 + (b.toNat - 0xA1))) else none

/-- The final of a column in the row of letters, or that there is none. -/
def finalOf? (b : UInt8) : Option Nat :=
  if b = 0xD4 then some 0 else ((letterOf? b).bind fun c => finals.idxOf? c).map (· + 1)

/-- A syllable that is spelt letter by letter. -/
def spelt? (initial vowel final : UInt8) : Option Char :=
  match (letterOf? initial).bind fun c => initials.idxOf? c, finalOf? final with
  | some initial, some final =>
    if 0xBF ≤ vowel ∧ vowel ≤ 0xD3 then some (syllable initial (vowel.toNat - 0xBF) final)
    else none
  | _, _ => none

/-- What a byte of EUC and the bytes after it start with.  The filler in the row
of letters announces a spelt syllable. -/
def eucKrFront (a : UInt8) (rest : List UInt8) : Front Unit :=
  match rest with
  | [] => incomplete []
  | b :: letters =>
    if a = 0xA4 ∧ b = 0xD4 then
      match letters with
      | 0xA4 :: initial :: 0xA4 :: vowel :: 0xA4 :: final :: _ =>
        found? 7 ((spelt? initial vowel final).map ([·]))
      | _ => if letters.length < 6 then incomplete rest else illegal
    else found? 1 ((ksX1001Char? a b).map ([·]))

/-! ## The unified code -/

/-- The elements of a sorted list that are not in another one. -/
def without : List Nat → List Nat → List Nat
  | [], _ => []
  | all, [] => all
  | x :: all, y :: others =>
    if x = y then without all others
    else if x < y then x :: without all (y :: others)
    else without (x :: all) others
  termination_by all others => all.length + others.length

/-- All syllables that the standard does not list. -/
def unlistedSyllables : Array Nat :=
  let listed := (List.range (25 * 94)).filterMap fun n =>
    (ksX1001.char? ((0x30 + n / 94) * 0x100 + 0x21 + n % 94)).map Char.toNat
  (without (List.range' 0xAC00 11172) listed).toArray

/-- The number of a second byte among those of unlisted syllables. -/
def unlistedTrail? (b : UInt8) : Option Nat :=
  if 0x41 ≤ b ∧ b ≤ 0x5A then some (b.toNat - 0x41)
  else if 0x61 ≤ b ∧ b ≤ 0x7A then some (b.toNat - 0x61 + 26)
  else if 0x81 ≤ b ∧ b ≤ 0xFE then some (b.toNat - 0x81 + 52)
  else none

/-- An unlisted syllable.  From the rows of the standard on there is less room
in a row. -/
def unlisted? (a b : UInt8) : Option Char :=
  (unlistedTrail? b).bind fun trail =>
    let number? :=
      if 0x81 ≤ a ∧ a ≤ 0xA0 then some ((a.toNat - 0x81) * 178 + trail)
      else if 0xA1 ≤ a ∧ a ≤ 0xC6 ∧ trail < 84 then some (32 * 178 + (a.toNat - 0xA1) * 84 + trail)
      else none
    (number?.bind fun number => unlistedSyllables[number]?).map Char.ofNat

/-! ## Johab -/

/-- A letter of a syllable: its number, or that it is missing. -/
inductive Slot where
  | filler
  | letter (number : Nat)

/-- The initial of a number. -/
def initialSlot? (n : Nat) : Option Slot :=
  if n = 1 then some .filler
  else if 2 ≤ n ∧ n ≤ 20 then some (.letter (n - 2))
  else none

/-- The vowel of a number.  The numbers are in groups of six. -/
def vowelSlot? (n : Nat) : Option Slot :=
  if n = 2 then some .filler
  else if 3 ≤ n ∧ n ≤ 7 then some (.letter (n - 3))
  else if 10 ≤ n ∧ n ≤ 15 then some (.letter (n - 5))
  else if 18 ≤ n ∧ n ≤ 23 then some (.letter (n - 7))
  else if 26 ≤ n ∧ n ≤ 29 then some (.letter (n - 9))
  else none

/-- The final of a number, counted from zero. -/
def finalSlot? (n : Nat) : Option Slot :=
  if n = 1 then some .filler
  else if 2 ≤ n ∧ n ≤ 17 then some (.letter (n - 2))
  else if 19 ≤ n ∧ n ≤ 29 then some (.letter (n - 3))
  else none

/-- The character of three letters: a syllable, a letter alone or a space. -/
def composed? : Slot → Slot → Slot → Option Char
  | .filler, .filler, .filler => some '\u3000'
  | .filler, .filler, .letter final => finals[final]?
  | .filler, .letter vowel, .filler => some (vowelLetter vowel)
  | .filler, .letter _, .letter _ => none
  | .letter initial, .filler, .filler => initials[initial]?
  | .letter _, .filler, .letter _ => none
  | .letter initial, .letter vowel, .filler => some (syllable initial vowel 0)
  | .letter initial, .letter vowel, .letter final => some (syllable initial vowel (final + 1))

/-- A character of Johab that is no syllable: two rows of the standard share the
codes of one first byte. -/
def johabSymbol? (a b : UInt8) : Option Char :=
  let row? :=
    if 0xD9 ≤ a ∧ a ≤ 0xDE then some (2 * (a.toNat - 0xD9))
    else if 0xE0 ≤ a ∧ a ≤ 0xF9 then some (2 * a.toNat - 0x197)
    else none
  let column? :=
    if 0x31 ≤ b ∧ b ≤ 0x7E then some (b.toNat - 0x31)
    else if 0x91 ≤ b ∧ b ≤ 0xFE then some (b.toNat - 0x43)
    else none
  if a = 0xDA ∧ 0xA1 ≤ b ∧ b ≤ 0xD3 then none
  else match row?, column? with
    | some row, some column =>
      ksX1001.char? ((row + column / 94 + 0x21) * 0x100 + column % 94 + 0x21)
    | _, _ => none

/-- A character of two bytes of Johab. -/
def johabChar? (a b : UInt8) : Option Char :=
  if a < 0xD8 then
    let number := code a b
    match initialSlot? (number / 0x400 % 0x20), vowelSlot? (number / 0x20 % 0x20),
        finalSlot? (number % 0x20) with
    | some initial, some vowel, some final => composed? initial vowel final
    | _, _, _ => none
  else johabSymbol? a b

def eucKrEncoding : Encoding :=
  ⟨"euc_kr", orAscii eucKrFront⟩

def cp949Encoding : Encoding :=
  .ofLookup "cp949" fun a b => ((ksX1001Char? a b).or (unlisted? a b)).map ([·])

def johabEncoding : Encoding :=
  .ofLookup "johab" fun a b => (johabChar? a b).map ([·])

end LineArithmetic.Charset.EastAsian
