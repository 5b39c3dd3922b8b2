import LineArithmetic.Binary64.Rounding
import LineArithmetic.Json.Basic
import LineArithmetic.Proofs.Digits
import LineArithmetic.Text.Hex

/-!
# The grammar of JSON

What it means that a text spells a value, without a reader and without a writer.
One value has many spellings: blanks may stand around all its parts, characters of
strings may be escaped in several ways, and decimals may be written with or
without a power of ten.

* `SpellsChar` and `SpellsText` are about strings.  A character beyond the first
  `0x10000` is escaped by the two halves of its surrogate pair; half a pair alone
  is no character, so it is never spelled.
* `SpellsFraction` and `SpellsExponent` are the ends of a decimal.  A decimal
  denotes the number nearest to it.  There is no spelling of a number that is not
  finite other than by a decimal beyond the range.
* `SpellsPart` puts values together.  It is one relation for values, items and
  members, so that a proof about spellings is one induction.
-/

namespace LineArithmetic.Json

open Text

/-! ## Strings -/

/-- The number of hexadecimal digits. -/
def hexNumber? (digits : List Char) : Option Nat :=
  digits.foldlM (fun n digit => (hexDigit? digit).map (n * 16 + ·)) 0

/-- Four hexadecimal digits of a number. -/
def SpellsHex (n : Nat) (digits : List Char) : Prop :=
  digits.length = 4 ∧ hexNumber? digits = some n

instance (n : Nat) (digits : List Char) : Decidable (SpellsHex n digits) :=
  inferInstanceAs (Decidable (_ ∧ _))

/-- The letters behind a backslash, each with the character that it stands for. -/
def shortEscapes : List (Char × Char) :=
  [('"', '"'), ('\\', '\\'), ('/', '/'), ('b', '\x08'), ('f', '\x0C'), ('n', '\n'), ('r', '\r'),
    ('t', '\t')]

/-- How a character of a string is spelled. -/
inductive SpellsChar : Char → List Char → Prop where
  | plain {c : Char} (hcontrol : 0x20 ≤ c.toNat) (hquote : c ≠ '"') (hbackslash : c ≠ '\\') :
      SpellsChar c [c]
  | short {letter c : Char} (h : (letter, c) ∈ shortEscapes) : SpellsChar c ['\\', letter]
  | number {c : Char} {digits : List Char} (h : SpellsHex c.toNat digits) :
      SpellsChar c ('\\' :: 'u' :: digits)
  /-- The two halves of a surrogate pair. -/
  | pair {c : Char} {high low : Nat} {highDigits lowDigits : List Char}
      (hhigh : high < 0x400) (hlow : low < 0x400)
      (hpair : c.toNat = 0x10000 + high * 0x400 + low)
      (hhighDigits : SpellsHex (0xD800 + high) highDigits)
      (hlowDigits : SpellsHex (0xDC00 + low) lowDigits) :
      SpellsChar c ('\\' :: 'u' :: highDigits ++ '\\' :: 'u' :: lowDigits)

/-- How the characters of a string are spelled. -/
inductive SpellsChars : List Char → List Char → Prop where
  | nil : SpellsChars [] []
  | cons {c : Char} {cs spelling more : List Char} (hc : SpellsChar c spelling)
      (hcs : SpellsChars cs more) : SpellsChars (c :: cs) (spelling ++ more)

/-- How a text is spelled: between quotes. -/
inductive SpellsText (text : String) : List Char → Prop where
  | quoted {inside : List Char} (h : SpellsChars text.toList inside) :
      SpellsText text ('"' :: inside ++ ['"'])

/-! ## Numbers -/

/-- The sign in front of a number. -/
def minus (negative : Bool) : List Char :=
  if negative then ['-'] else []

/-- The digits behind a point, and how they are spelled. -/
inductive SpellsFraction : List Char → List Char → Prop where
  | none : SpellsFraction [] []
  | digits {digits : List Char} (h : IsDigits digits) : SpellsFraction digits ('.' :: digits)

/-- A power of ten, and how it is spelled. -/
inductive SpellsExponent : Int → List Char → Prop where
  | none : SpellsExponent 0 []
  | up {e : Char} {sign digits : List Char} (he : e = 'e' ∨ e = 'E')
      (hsign : sign = [] ∨ sign = ['+']) (h : IsDigits digits) :
      SpellsExponent (digitsValue digits) (e :: sign ++ digits)
  | down {e : Char} {digits : List Char} (he : e = 'e' ∨ e = 'E') (h : IsDigits digits) :
      SpellsExponent (-(digitsValue digits : Int)) (e :: '-' :: digits)

/-! ## Values -/

/-- The blanks that may stand around the parts of a text. -/
def IsSpaces (cs : List Char) : Prop :=
  ∀ c ∈ cs, c = ' ' ∨ c = '\t' ∨ c = '\n' ∨ c = '\r'

/-- The parts of a text: a value, a value with the blanks around it, and what
stands between brackets. -/
inductive Part where
  | value (json : Json)
  | padded (json : Json)
  | items (items : List Json)
  | members (members : List (List CodePoint × Json))

/-- How the parts of a text are spelled. -/
inductive SpellsPart : Part → List Char → Prop where
  | null : SpellsPart (.value .null) ['n', 'u', 'l', 'l']
  | true : SpellsPart (.value (.bool true)) ['t', 'r', 'u', 'e']
  | false : SpellsPart (.value (.bool false)) ['f', 'a', 'l', 's', 'e']
  | int {n : Int} {negative : Bool} {whole : List Char} (hwhole : IsWhole whole)
      (hn : n = if negative then -(digitsValue whole : Int) else digitsValue whole) :
      SpellsPart (.value (.int n)) (minus negative ++ whole)
  | float {x : Binary64} {negative : Bool} {whole digits fraction exponent : List Char}
      {power : Int} (hwhole : IsWhole whole) (hfraction : SpellsFraction digits fraction)
      (hexponent : SpellsExponent power exponent) (hpart : fraction ≠ [] ∨ exponent ≠ [])
      (hx : x = Binary64.ofDecimal negative (digitsValue (whole ++ digits))
        (power - digits.length)) :
      SpellsPart (.value (.float x)) (minus negative ++ whole ++ fraction ++ exponent)
  | string {points : List CodePoint} {text : String} {cs : List Char}
      (hpoints : points = codePoints text) (h : SpellsText text cs) :
      SpellsPart (.value (.string points)) cs
  | emptyArray {spaces : List Char} (h : IsSpaces spaces) :
      SpellsPart (.value (.array [])) ('[' :: spaces ++ [']'])
  | array {items : List Json} {cs : List Char} (h : SpellsPart (.items items) cs) :
      SpellsPart (.value (.array items)) ('[' :: cs ++ [']'])
  | emptyObject {spaces : List Char} (h : IsSpaces spaces) :
      SpellsPart (.value (.object [])) ('{' :: spaces ++ ['}'])
  | object {members : List (List CodePoint × Json)} {cs : List Char}
      (h : SpellsPart (.members members) cs) :
      SpellsPart (.value (.object members)) ('{' :: cs ++ ['}'])
  | padded {json : Json} {before cs after : List Char} (hbefore : IsSpaces before)
      (h : SpellsPart (.value json) cs) (hafter : IsSpaces after) :
      SpellsPart (.padded json) (before ++ cs ++ after)
  | lastItem {item : Json} {cs : List Char} (h : SpellsPart (.padded item) cs) :
      SpellsPart (.items [item]) cs
  | moreItems {item : Json} {items : List Json} {cs more : List Char}
      (h : SpellsPart (.padded item) cs) (hmore : SpellsPart (.items items) more) :
      SpellsPart (.items (item :: items)) (cs ++ ',' :: more)
  | lastMember {points : List CodePoint} {name : String} {member : Json}
      {before cs after value : List Char} (hpoints : points = codePoints name)
      (hbefore : IsSpaces before) (hname : SpellsText name cs) (hafter : IsSpaces after)
      (h : SpellsPart (.padded member) value) :
      SpellsPart (.members [(points, member)]) (before ++ cs ++ after ++ ':' :: value)
  | moreMembers {points : List CodePoint} {name : String} {member : Json}
      {members : List (List CodePoint × Json)} {before cs after value more : List Char}
      (hpoints : points = codePoints name) (hbefore : IsSpaces before)
      (hname : SpellsText name cs) (hafter : IsSpaces after)
      (h : SpellsPart (.padded member) value) (hmore : SpellsPart (.members members) more) :
      SpellsPart (.members ((points, member) :: members))
        (before ++ cs ++ after ++ ':' :: value ++ ',' :: more)

/-- Whether a text spells a value, perhaps with blanks around it. -/
def Spells (json : Json) (text : List Char) : Prop :=
  SpellsPart (.padded json) text

end LineArithmetic.Json
