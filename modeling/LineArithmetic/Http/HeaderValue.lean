import LineArithmetic.Charset.Name
import LineArithmetic.Text.Blank
import LineArithmetic.Text.Numeral
import LineArithmetic.Text.Percent
import LineArithmetic.Text.Split

/-!
# Header values

A value such as `application/json; indent=4`: a word and named parameters behind
semicolons.  Semicolons inside quotes separate nothing.

The value of a parameter may be spread over *sections*, with numbers behind a
star in their names, and a star at the end of a name says that the section is
percent-encoded.  The joined sections may then start with the name of a character
set and a language, each closed by an apostrophe.  Parameters in sections stand
behind all others, and of several parameters of one name the last one counts.
-/

namespace LineArithmetic.Http

open Text

/-- What a section has behind the star in its name. -/
inductive SectionKind where
  | unnumbered
  | numbered
  deriving DecidableEq, Repr

/-- How a kind is called in messages. -/
def SectionKind.name : SectionKind → String
  | .unnumbered => "NoneType"
  | .numbered => "int"

/-- Why a header value cannot be read. -/
inductive HeaderFault where
  | tooLong
  | sectionNumber (fault : IntegerFault)
  /-- Sections with and without numbers cannot be put in order. -/
  | mixedSections (found first : SectionKind)
  | unknownCharset (name : List Char)
  /-- The name of a character set holds the character that ends names. -/
  | nullInCharset
  | undecodable (charset : List Char) (fault : Charset.Fault)
  | undefinedCharset (charset : List Char)
  deriving DecidableEq, Repr

/-- The fault in words. -/
def HeaderFault.message : HeaderFault → String
  | .tooLong => "Unable to parse header parameters (value too long)."
  | .sectionNumber fault => fault.message
  | .mixedSections found first =>
    "'<' not supported between instances of '" ++ found.name ++ "' and '" ++ first.name ++ "'"
  | .unknownCharset name =>
    "Invalid encoding " ++ quoted (String.ofList name) ++ " for RFC 2231 param."
  | .nullInCharset => "embedded null character"
  | .undecodable charset fault => Charset.wrappedMessage (String.ofList charset) fault.message
  | .undefinedCharset charset =>
    Charset.wrappedMessage (String.ofList charset) Charset.undefinedMessage

/-- A word with named parameters. -/
structure HeaderValue where
  word : List Char
  parameters : List (List Char × List Char)
  deriving DecidableEq, Repr

namespace HeaderValue

/-! ## Parts -/

/-- Cuts a header value at the semicolons that stand outside quotes.  The
state is whether a quote is open, whether the last character was a backslash,
and the part so far, last character first. -/
def cut (quoteOpen afterBackslash : Bool) (part : List Char) :
    List Char → List (List Char)
  | [] => [part.reverse]
  | c :: cs =>
    if c = ';' ∧ ¬ quoteOpen then part.reverse :: cut false false [] cs
    else
      cut (if c = '"' ∧ ¬ afterBackslash then !quoteOpen else quoteOpen) (c == '\\')
        (c :: part) cs

/-- The name and the value of a part.  Names are in lower case; a part without
an equals sign is a name as it stands. -/
def namedPart (part : List Char) : List Char × List Char :=
  if part.contains '=' then
    ((trim isBlank (part.takeWhile (· != '='))).map Char.toLower,
      trim isBlank ((part.dropWhile (· != '=')).drop 1))
  else (trim isBlank part, [])

/-- Replaces a backslash and the character after it by that character. -/
def unescape (c : Char) : List Char → List Char
  | [] => []
  | '\\' :: d :: cs => if d = c then c :: unescape c cs else '\\' :: unescape c (d :: cs)
  | d :: cs => d :: unescape c cs

/-- Whether a value stands between two characters. -/
def isBetween (opening closing : Char) (value : List Char) : Bool :=
  2 ≤ value.length && value.head? == some opening && value.getLast? == some closing

/-- A value without the quotes or angle brackets around it. -/
def unquote (value : List Char) : List Char :=
  let inside := (value.drop 1).dropLast
  if isBetween '"' '"' value then unescape '"' (unescape '\\' inside)
  else if isBetween '<' '>' value then inside
  else value

/-- A value with backslashes in front of quotes and backslashes. -/
def escape (value : List Char) : List Char :=
  value.flatMap fun c => if c = '"' ∨ c = '\\' then ['\\', c] else [c]

/-! ## Sections -/

/-- A section of a value. -/
structure Piece where
  number : Option Nat
  value : List Char
  encoded : Bool
  deriving DecidableEq, Repr

/-- The kind of a section. -/
def Piece.kind (piece : Piece) : SectionKind :=
  if piece.number.isSome then .numbered else .unnumbered

/-- The order of sections of one kind: by number, and by value where two have the
same number. -/
def Piece.isBefore (a b : Piece) : Bool :=
  let numberOf (piece : Piece) : Nat := piece.number.getD 0
  if numberOf a ≠ numberOf b then numberOf a < numberOf b
  else if a.value ≠ b.value then String.ofList a.value < String.ofList b.value
  else !a.encoded || b.encoded

/-- Whether a character may stand in the name of a parameter in sections. -/
def isNameChar (c : Char) : Bool :=
  c.isAlphanum || c == '_'

/-- The parts of the name of a section: the name of the parameter, the digits of
the number, and whether a star stands at the end. -/
def sectionName? (name : List Char) : Option (List Char × List Char × Bool) :=
  let base := name.takeWhile isNameChar
  match base, name.drop base.length with
  | _ :: _, '*' :: rest =>
    let digits := rest.takeWhile Char.isDigit
    match digits, rest.drop digits.length with
    | [], [] => some (base, [], true)
    | _ :: _, [] => some (base, digits, false)
    | _ :: _, ['*'] => some (base, digits, true)
    | _, _ => none
  | _, _ => none

/-- Parameters whole and in sections; of those in sections each name stands once,
with its sections in the order of the text. -/
structure Collected where
  whole : List (List Char × List Char)
  pieces : List (List Char × List Piece)

/-- A list of named lists with one more element under a name. -/
def addPiece (name : List Char) (piece : Piece) :
    List (List Char × List Piece) → List (List Char × List Piece)
  | [] => [(name, [piece])]
  | (other, pieces) :: rest =>
    if other = name then (other, pieces ++ [piece]) :: rest
    else (other, pieces) :: addPiece name piece rest

/-- The parameters with one part more. -/
def Collected.add (collected : Collected) (part : List Char) : Except HeaderFault Collected :=
  let (name, raw) := namedPart part
  let value := unquote raw
  match sectionName? name with
  | none => .ok { collected with whole := collected.whole ++ [(name, value)] }
  | some (base, digits, encoded) =>
    let number : Except IntegerFault (Option Nat) :=
      if digits.isEmpty then .ok none
      else (integerOfDigits false digits).map fun n => some n.toNat
    match number with
    | .error fault => .error (.sectionNumber fault)
    | .ok number =>
      .ok { collected with pieces := addPiece base ⟨number, value, encoded⟩ collected.pieces }

/-- Puts sections in order. -/
def sortPieces (pieces : List Piece) : Except HeaderFault (List Piece) :=
  match pieces with
  | [] => .ok []
  | first :: _ =>
    match pieces.find? fun piece => piece.kind ≠ first.kind with
    | some other => .error (.mixedSections other.kind first.kind)
    | none => .ok (pieces.mergeSort Piece.isBefore)

/-! ## Encoded values -/

/-- A byte for each of the first 256 characters; other characters become escapes
by number. -/
def rawBytes (c : Char) : List UInt8 :=
  let ascii (cs : List Char) : List UInt8 := cs.map fun c => UInt8.ofNat c.toNat
  if c.toNat < 0x100 then [UInt8.ofNat c.toNat]
  else if c.toNat < 0x10000 then ascii ('\\' :: 'u' :: hex 4 c.toNat)
  else ascii ('\\' :: 'U' :: hex 8 c.toNat)

/-- The text of an encoded value in a character set that is named in front of
it.  In an encoding of bytes it is left as it is. -/
def decodeNamed (charset text : List Char) : Except HeaderFault (List Char) :=
  let bytes := text.flatMap rawBytes
  if charset.contains '\x00' then .error .nullInCharset
  else
    match Charset.named? charset with
    | none => .error (.unknownCharset charset)
    | some .binary => .ok (unquote text)
    | some .undefined => if bytes.isEmpty then .ok [] else .error (.undefinedCharset charset)
    | some (.text set) => (set.decode .repairing bytes).mapError (.undecodable charset)

/-- The text of an encoded value. -/
def decodeEncoded (value : List Char) : Except HeaderFault (List Char) :=
  match split '\'' (escape value) with
  | charset :: _language :: rest@(_ :: _) =>
    decodeNamed charset (unescape '"' (unescape '\\' (['\''].intercalate rest)))
  | _ => decodeNamed "us-ascii".toList value

/-- The value of sections in order. -/
def join (pieces : List Piece) : Except HeaderFault (List Char) :=
  let text := pieces.flatMap fun piece =>
    if piece.encoded then Percent.decodeLatin1 piece.value else piece.value
  if pieces.any Piece.encoded then decodeEncoded text else .ok text

/-! ## Reading -/

/-- Parameters with one more, which takes the place of one of the same name. -/
def set (name value : List Char) :
    List (List Char × List Char) → List (List Char × List Char)
  | [] => [(name, value)]
  | parameter :: rest =>
    if parameter.1 = name then (name, value) :: rest else parameter :: set name value rest

/-- The longest header value that is read. -/
def maxLength : Nat := 10000

/-- Reads a header value.  Parameters without a name are left out. -/
def read (header : String) : Except HeaderFault HeaderValue :=
  if maxLength < header.length then .error .tooLong
  else
    match cut false false [] header.toList with
    | [] => .ok ⟨[], []⟩
    | first :: rest => do
      let collected ← rest.foldlM Collected.add ⟨[], []⟩
      let sorted ← collected.pieces.mapM fun (name, pieces) => do
        return (name, ← sortPieces pieces)
      let joined ← sorted.mapM fun (name, pieces) => do return (name, ← join pieces)
      let parameters := (collected.whole ++ joined).filter fun parameter => parameter.1 ≠ []
      return ⟨(namedPart first).1.map Char.toLower,
        parameters.foldl (fun found parameter => set parameter.1 parameter.2 found) []⟩

/-- The value of a parameter. -/
def parameter? (value : HeaderValue) (name : String) : Option (List Char) :=
  (value.parameters.find? fun parameter => parameter.1 = name.toList).map (·.2)

end HeaderValue

end LineArithmetic.Http
