import LineArithmetic.Charset.Wide

/-!
# Escaped text

Every byte is the character of its number, except behind a backslash.  The full
notation knows the escapes of string literals; the plain one knows characters
by number only and leaves all other backslashes alone.
-/

namespace LineArithmetic.Charset.Escaped

open Text

/-- The character of a byte. -/
def charOf (byte : UInt8) : Char :=
  Char.ofNat byte.toNat

/-- A character by number: a letter, `digits` hexadecimal digits behind it, and
`outside` if the number belongs to no character. -/
def byNumber (openEnded : Bool) (letter : Char) (digits : Nat) (outside : Reason)
    (rest : List UInt8) : Front Unit :=
  let found := (rest.take digits).takeWhile fun byte => (hexDigit? (charOf byte)).isSome
  let number := (found.filterMap fun byte => hexDigit? (charOf byte)).foldl (· * 16 + ·) 0
  if found.length = digits then
    match CodePoint.ofNat? number with
    | some point => .chars point.toChar?.toList (1 + digits) ()
    | none => .fault (1 + digits) outside
  else if found.length = rest.length then
    cutOff openEnded (1 + found.length) (.truncatedEscape letter digits)
  else .fault (1 + found.length) (.truncatedEscape letter digits)

/-- A character by up to three octal digits, the first of which is given. -/
def octal (first : UInt8) (rest : List UInt8) : Front Unit :=
  let isOctal (byte : UInt8) : Bool := 0x30 ≤ byte && byte ≤ 0x37
  let more := (rest.take 2).takeWhile isOctal
  let number := (first :: more).foldl (fun value byte => value * 8 + (byte.toNat - 0x30)) 0
  .chars [Char.ofNat number] (1 + more.length) ()

/-- A character by name.  No names are known. -/
def byName (openEnded : Bool) (rest : List UInt8) : Front Unit :=
  match rest with
  | [] => cutOff openEnded 1 .malformedName
  | 0x7B :: rest =>
    let name := rest.takeWhile (· != 0x7D)
    if name.length = rest.length then cutOff openEnded (2 + name.length) .malformedName
    else if name.isEmpty then .fault 2 .malformedName
    else .fault (3 + name.length) .unknownName
  | _ => .fault 1 .malformedName

/-- What a letter behind a backslash stands for. -/
def escapes : List (Char × List Char) :=
  [('\n', []), ('\\', ['\\']), ('\'', ['\'']), ('"', ['"']), ('b', ['\x08']), ('f', ['\x0C']),
    ('t', ['\t']), ('n', ['\n']), ('r', ['\r']), ('v', ['\x0B']), ('a', ['\x07'])]

/-- What a byte and the bytes after it start with in the full notation. -/
def fullFront (openEnded : Bool) (byte : UInt8) (rest : List UInt8) : Front Unit :=
  if byte ≠ 0x5C then .chars [charOf byte] 0 ()
  else
    match rest with
    | [] => cutOff openEnded 0 .finalBackslash
    | letter :: rest =>
      match charOf letter with
      | 'x' => byNumber openEnded 'x' 2 .illegalEscape rest
      | 'u' => byNumber openEnded 'u' 4 .illegalEscape rest
      | 'U' => byNumber openEnded 'U' 8 .illegalEscape rest
      | 'N' => byName openEnded rest
      | c =>
        match escapes.find? fun escape => escape.1 = c with
        | some escape => .chars escape.2 1 ()
        | none =>
          if '0' ≤ c ∧ c ≤ '7' then octal letter rest else .chars ['\\', c] 1 ()

/-- What a byte and the bytes after it start with in the plain notation. -/
def plainFront (openEnded : Bool) (byte : UInt8) (rest : List UInt8) : Front Unit :=
  if byte ≠ 0x5C then .chars [charOf byte] 0 ()
  else
    match rest with
    | [] => if openEnded then .stop else .chars ['\\'] 0 ()
    | letter :: rest =>
      match charOf letter with
      | 'u' => byNumber openEnded 'u' 4 .longEscapeOutOfRange rest
      | 'U' => byNumber openEnded 'U' 8 .longEscapeOutOfRange rest
      | c => .chars ['\\', c] 1 ()

/-- Decodes a text in the full notation. -/
def decodeFull (reading : Reading) (bytes : List UInt8) : Except ByteFault (List Char) :=
  decodeEach "unicodeescape" (fullFront reading.openEnded) reading.lenient bytes

/-- Decodes a text in the plain notation. -/
def decodePlain (reading : Reading) (bytes : List UInt8) : Except ByteFault (List Char) :=
  decodeEach "rawunicodeescape" (plainFront reading.openEnded) reading.lenient bytes

end LineArithmetic.Charset.Escaped
