import LineArithmetic.Binary64.Reading
import LineArithmetic.Json.Basic
import LineArithmetic.Text.Hex

/-!
# JSON from text

A reader that says exactly where a text stops being JSON.  It walks the list of
characters and never backs up further than the exponent of a number, so the
place of a fault is told by how many characters are left there; `Fault.message`
turns that into a line and a column.

The words for numbers that are not finite are recognised in order to be refused
by name; integers of more digits than can be read and values that are nested
more deeply than the reader is told to follow are refused as well.
-/

namespace LineArithmetic.Json

open Text

/-- What can be wrong at a place of a text. -/
inductive Problem where
  | byteOrderMark
  | expectingValue
  | expectingName
  | expectingColon
  | expectingComma
  | extraData
  | controlCharacter
  | unterminatedString
  | invalidEscape
  | invalidUnicodeEscape
  deriving DecidableEq, Repr

def Problem.text : Problem → String
  | .byteOrderMark => "Unexpected UTF-8 BOM (decode using utf-8-sig)"
  | .expectingValue => "Expecting value"
  | .expectingName => "Expecting property name enclosed in double quotes"
  | .expectingColon => "Expecting ':' delimiter"
  | .expectingComma => "Expecting ',' delimiter"
  | .extraData => "Extra data"
  | .controlCharacter => "Invalid control character at"
  | .unterminatedString => "Unterminated string starting at"
  | .invalidEscape => "Invalid \\escape"
  | .invalidUnicodeEscape => "Invalid \\uXXXX escape"

/-- Why a text is not read. -/
inductive Fault where
  /-- A problem where `left` characters are left. -/
  | located (problem : Problem) (left : Nat)
  /-- A word for a number that is not finite. -/
  | notFinite (word : String)
  | integer (fault : IntegerFault)
  | tooDeep
  deriving DecidableEq, Repr

/-- The fault of a text in words; lines and columns count from one. -/
def Fault.message (whole : List Char) : Fault → String
  | .located problem left =>
    let position := whole.length - left
    let before := whole.take position
    let line := before.count '\n' + 1
    let column := (before.reverse.takeWhile (· != '\n')).length + 1
    problem.text ++ ": line " ++ toString line ++ " column " ++ toString column ++
      " (char " ++ toString position ++ ")"
  | .notFinite word => "Out of range float values are not JSON compliant: " ++ quoted word
  | .integer fault => fault.message
  | .tooDeep => "Too many brackets inside one another"

/-- A problem in front of the given characters. -/
def failAt {α : Type} (problem : Problem) (rest : List Char) : Except Fault α :=
  .error (.located problem rest.length)

/-- What may stand between the parts of a text. -/
def isSpace (c : Char) : Bool :=
  c == ' ' || c == '\t' || c == '\n' || c == '\r'

def skipSpace (cs : List Char) : List Char :=
  cs.dropWhile isSpace

/-- The characters after a prefix, if the text starts with it. -/
def after? (word : String) (cs : List Char) : Option (List Char) :=
  if word.toList.isPrefixOf cs then some (cs.drop word.length) else none

/-! ## Strings -/

/-- The code point of four hexadecimal digits. -/
def hex4? (a b c d : Char) : Option CodePoint :=
  match hexDigit? a, hexDigit? b, hexDigit? c, hexDigit? d with
  | some a, some b, some c, some d =>
    some (.ofNat (((a * 16 + b) * 16 + c) * 16 + d))
  | _, _, _, _ => none

/-- The second half of a surrogate pair, if the text goes on with the escape
of one. -/
def lowHalf : List Char → Except Fault (Option CodePoint)
  | '\\' :: 'u' :: rest@(a :: b :: c :: d :: _ :: _) =>
    match hex4? a b c d with
    | some p => .ok (if p.isLowSurrogate then some p else none)
    | none => .error (.located .invalidUnicodeEscape (rest.length + 1))
  | _ => .ok none

/-- The code point of an escape by number and how many characters spell it,
from the letter `u` on, which stands in front of the text.  The four digits
must not be the last characters. -/
def unicodeEscape (cs : List Char) : Except Fault (CodePoint × Nat) :=
  match cs with
  | a :: b :: c :: d :: e :: rest =>
    match hex4? a b c d with
    | none => .error (.located .invalidUnicodeEscape (cs.length + 1))
    | some p =>
      if p.isHighSurrogate then
        match lowHalf (e :: rest) with
        | .error fault => .error fault
        | .ok (some low) => .ok (p.joinSurrogates low, 11)
        | .ok none => .ok (p, 5)
      else .ok (p, 5)
  | _ => .error (.located .invalidUnicodeEscape (cs.length + 1))

/-- The character that a letter stands for behind a backslash. -/
def escaped? : Char → Option Char
  | '"' => some '"'
  | '\\' => some '\\'
  | '/' => some '/'
  | 'b' => some '\x08'
  | 'f' => some '\x0C'
  | 'n' => some '\n'
  | 'r' => some '\r'
  | 't' => some '\t'
  | _ => none

/-- The code point of the escape behind a backslash, and how many characters
spell it.  `opening` is the text from the opening quote of the string on. -/
def unescape (opening : List Char) : List Char → Except Fault (CodePoint × Nat)
  | [] => failAt .unterminatedString opening
  | 'u' :: rest => unicodeEscape rest
  | c :: rest =>
    match escaped? c with
    | some d => .ok (.ofChar d, 1)
    | none => .error (.located .invalidEscape (rest.length + 2))

/-- The code points of a string up to its closing quote, and what follows it;
those read so far are given last one first. -/
def stringBody (opening : List Char) (points : List CodePoint) :
    List Char → Except Fault (List CodePoint × List Char)
  | [] => failAt .unterminatedString opening
  | c :: rest =>
    if c = '"' then .ok (points.reverse, rest)
    else if c = '\\' then
      match unescape opening rest with
      | .error fault => .error fault
      | .ok (p, count) => stringBody opening (p :: points) (rest.drop count)
    else if c.toNat < 0x20 then failAt .controlCharacter (c :: rest)
    else stringBody opening (.ofChar c :: points) rest
  termination_by cs => cs.length
  decreasing_by all_goals (simp only [List.length_cons, List.length_drop]; omega)

/-! ## Numbers -/

/-- A point with digits, if the text starts with that. -/
def fractionPart : List Char → List Char
  | '.' :: rest =>
    let digits := rest.takeWhile Char.isDigit
    if digits.isEmpty then [] else '.' :: digits
  | _ => []

/-- A letter `e` with a signed integer, if the text starts with that. -/
def exponentPart : List Char → List Char
  | [] => []
  | e :: rest =>
    let sign := rest.take (if rest.head? = some '+' ∨ rest.head? = some '-' then 1 else 0)
    let digits := (rest.drop sign.length).takeWhile Char.isDigit
    if (e = 'e' ∨ e = 'E') ∧ digits ≠ [] then e :: sign ++ digits else []

/-- The integral part: a zero alone or digits. -/
def wholePart : List Char → List Char
  | '0' :: _ => ['0']
  | cs => cs.takeWhile Char.isDigit

/-- Reads a number: an integer unless it has a fraction or an exponent. -/
def number (cs : List Char) : Except Fault (Json × List Char) :=
  let sign := cs.take (if cs.head? = some '-' then 1 else 0)
  let unsigned := cs.drop sign.length
  let whole := wholePart unsigned
  let afterWhole := unsigned.drop whole.length
  let fraction := fractionPart afterWhole
  let afterFraction := afterWhole.drop fraction.length
  let exponent := exponentPart afterFraction
  let rest := afterFraction.drop exponent.length
  if whole.isEmpty then failAt .expectingValue cs
  else if fraction.isEmpty && exponent.isEmpty then
    match integerOfDigits (sign ≠ []) whole with
    | .ok n => .ok (.int n, rest)
    | .error fault => .error (.integer fault)
  else
    match Binary64.ofPlain? (sign ++ whole ++ fraction ++ exponent) with
    | some x => .ok (.float x, rest)
    | none => failAt .expectingValue cs

/-! ## Values -/

/-- The words that stand for a value. -/
def words : List (String × Json) :=
  [("null", .null), ("true", .bool true), ("false", .bool false)]

/-- The words for numbers that are not finite. -/
def nonFiniteWords : List String := ["NaN", "Infinity", "-Infinity"]

/-- Reads a value that is no string, array or object. -/
def scalar (cs : List Char) : Except Fault (Json × List Char) :=
  match words.findSome? fun word => (after? word.1 cs).map fun rest => (word.2, rest) with
  | some read => .ok read
  | none =>
    match nonFiniteWords.find? fun word => (after? word cs).isSome with
    | some word => .error (.notFinite word)
    | none => number cs

mutual

/-- Reads a value in which brackets may stand inside one another up to a depth.
`fuel` bounds the nesting and the number of parts. -/
def value (fuel depth : Nat) (cs : List Char) : Except Fault (Json × List Char) :=
  match fuel with
  | 0 => failAt .expectingValue cs
  | fuel + 1 =>
    match cs, depth with
    | '"' :: rest, _ => (stringBody cs [] rest).map fun read => (.string read.1, read.2)
    | '{' :: rest, depth + 1 =>
      match skipSpace rest with
      | '}' :: rest => .ok (.object [], rest)
      | rest => members fuel depth [] rest
    | '[' :: rest, depth + 1 =>
      match skipSpace rest with
      | ']' :: rest => .ok (.array [], rest)
      | rest => items fuel depth [] rest
    | '{' :: _, 0 | '[' :: _, 0 => .error .tooDeep
    | _, _ => scalar cs

/-- Reads the items of an array up to its end; those read so far are given last
one first. -/
def items (fuel depth : Nat) (done : List Json) (cs : List Char) :
    Except Fault (Json × List Char) :=
  match fuel with
  | 0 => failAt .expectingValue cs
  | fuel + 1 =>
    match value fuel depth cs with
    | .error fault => .error fault
    | .ok (item, rest) =>
      match skipSpace rest with
      | ']' :: rest => .ok (.array (item :: done).reverse, rest)
      | ',' :: rest => items fuel depth (item :: done) (skipSpace rest)
      | rest => failAt .expectingComma rest

/-- Reads the members of an object up to its end; those read so far are given
last one first. -/
def members (fuel depth : Nat) (done : List (List CodePoint × Json)) (cs : List Char) :
    Except Fault (Json × List Char) :=
  match fuel with
  | 0 => failAt .expectingName cs
  | fuel + 1 =>
    match cs with
    | '"' :: rest =>
      match stringBody cs [] rest with
      | .error fault => .error fault
      | .ok (name, rest) =>
        match skipSpace rest with
        | ':' :: rest =>
          match value fuel depth (skipSpace rest) with
          | .error fault => .error fault
          | .ok (member, rest) =>
            match skipSpace rest with
            | '}' :: rest => .ok (.object ((name, member) :: done).reverse, rest)
            | ',' :: rest => members fuel depth ((name, member) :: done) (skipSpace rest)
            | rest => failAt .expectingComma rest
        | rest => failAt .expectingColon rest
    | _ => failAt .expectingName cs

end

/-- Reads a text that is one value, with brackets up to a depth.  Every
character that is taken pays for two steps at most, so the fuel does not run
out. -/
def read (depth : Nat) (cs : List Char) : Except Fault Json :=
  if cs.head? = some '\uFEFF' then failAt .byteOrderMark cs
  else
    match value (2 * cs.length + 2) depth (skipSpace cs) with
    | .error fault => .error fault
    | .ok (json, rest) =>
      match skipSpace rest with
      | [] => .ok json
      | rest => failAt .extraData rest

end LineArithmetic.Json
