import LineArithmetic.Text.Hex

/-!
# Writing Latin-1

The first 256 characters as bytes.  A fault names the first run of characters
that have no byte.
-/

namespace LineArithmetic.Charset.Latin1

open Text

/-- The characters from position `first` on, `length` of them, the first of which
is `char`, have no byte. -/
structure Unwritable where
  char : Char
  first : Nat
  length : Nat
  deriving DecidableEq, Repr

/-- A character by its number. -/
def escaped (c : Char) : List Char :=
  if c.toNat < 0x10000 then '\\' :: 'u' :: hex 4 c.toNat else '\\' :: 'U' :: hex 8 c.toNat

/-- The fault in words: the character itself if it is a single one, and the
place. -/
def Unwritable.message (fault : Unwritable) : String :=
  let place :=
    if fault.length = 1 then
      "character '" ++ String.ofList (escaped fault.char) ++ "' in position " ++
        toString fault.first
    else
      "characters in position " ++ toString fault.first ++ "-" ++
        toString (fault.first + fault.length - 1)
  "'latin-1' codec can't encode " ++ place ++ ": ordinal not in range(256)"

/-- Whether a character has a byte. -/
def isWritable (c : Char) : Bool :=
  c.toNat < 0x100

/-- The bytes of a text. -/
def encode (cs : List Char) : Except Unwritable (List UInt8) :=
  match cs.dropWhile isWritable with
  | [] => .ok (cs.map fun c => UInt8.ofNat c.toNat)
  | c :: rest =>
    .error ⟨c, (cs.takeWhile isWritable).length,
      1 + (rest.takeWhile fun c => !isWritable c).length⟩

/-- The text of bytes. -/
def decode (bytes : List UInt8) : List Char :=
  bytes.map fun byte => Char.ofNat byte.toNat

end LineArithmetic.Charset.Latin1
