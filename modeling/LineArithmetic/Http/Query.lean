import LineArithmetic.Charset.Latin1
import LineArithmetic.Charset.Name
import LineArithmetic.Text.Percent
import LineArithmetic.Text.Split

/-!
# Query strings

Named values behind the question mark of an address.  The query arrives as bytes;
they are read in a character set, or as Latin-1 where they are no text of it.
In names and values a plus sign is a space, and a percent sign with two
hexadecimal digits is a byte of that character set.

When an address is sent back its query is made safe by writing every byte of its
UTF-8 form other than those of an address by number.
-/

namespace LineArithmetic.Http.Query

open Text

/-- A character set as a request names it. -/
structure Encoding where
  name : List Char
  named : Charset.Named

/-- The encoding of a request that names none. -/
def Encoding.standard : Encoding := ⟨Charset.Utf8.name.toList, .text .utf8⟩

/-- Why a query cannot be read. -/
inductive Fault where
  | unwritable (fault : Charset.Latin1.Unwritable)
  | notText (name : List Char)
  | undefined (name : List Char)
  | undecodable (name : List Char) (fault : Charset.Fault)
  | tooManyFields
  deriving DecidableEq, Repr

/-- The fault in words. -/
def Fault.message : Fault → String
  | .unwritable fault => fault.message
  | .notText name =>
    "'" ++ String.ofList name ++
      "' is not a text encoding; use codecs.decode() to handle arbitrary codecs"
  | .undefined name => Charset.wrappedMessage (String.ofList name) Charset.undefinedMessage
  | .undecodable name fault => Charset.wrappedMessage (String.ofList name) fault.message
  | .tooManyFields =>
    "The number of GET/POST parameters exceeded settings.DATA_UPLOAD_MAX_NUMBER_FIELDS."

/-- The greatest number of fields of a query. -/
def maxFields : Nat := 1000

/-- The text of the bytes of a query. -/
def text (charset : Charset) (name : List Char) (bytes : List UInt8) :
    Except Fault (List Char) :=
  match charset.decode .strict bytes with
  | .ok chars => .ok chars
  | .error (.unreadable _) => .ok (Charset.Latin1.decode bytes)
  | .error fault => .error (.undecodable name fault)

/-- Decodes a name or a value.  A character set in which nothing can be repaired
makes it one field too many. -/
def decode (charset : Charset) (cs : List Char) : Except Fault (List Char) :=
  (Percent.decode (charset.decode .repairing) (cs.map fun c => if c = '+' then ' ' else c)).mapError
    fun _ => .tooManyFields

/-- The name and the value of a part. -/
def field (charset : Charset) (part : List Char) : Except Fault (List Char × List Char) := do
  let name ← decode charset (part.takeWhile (· != '='))
  return (name, ← decode charset ((part.dropWhile (· != '=')).drop 1))

/-- The named values of the text of a query, in order. -/
def fieldsOfText (charset : Charset) (text : List Char) :
    Except Fault (List (List Char × List Char)) :=
  let parts := split '&' text
  if maxFields < parts.length then .error .tooManyFields
  else (parts.filter (· ≠ [])).mapM (field charset)

/-- The named values of a query, in order. -/
def fields (encoding : Encoding) (query : String) :
    Except Fault (List (List Char × List Char)) :=
  match Charset.Latin1.encode query.toList with
  | .error fault => .error (.unwritable fault)
  | .ok [] => .ok []
  | .ok bytes =>
    match encoding.named with
    | .binary => .error (.notText encoding.name)
    | .undefined => .error (.undefined encoding.name)
    | .text charset => (text charset encoding.name bytes).bind (fieldsOfText charset)

/-- The value of a name; of several the last one counts. -/
def value? (fields : List (List Char × List Char)) (name : String) : Option (List Char) :=
  (fields.reverse.find? fun f => f.1 = name.toList).map (·.2)

/-- Whether a byte may stand in an address as itself. -/
def isSafe (byte : UInt8) : Bool :=
  let c := Char.ofNat byte.toNat
  c.isAlphanum || "_.-~/#%[]=:;$&()+,!?*@'".toList.contains c

/-- A byte in an address. -/
def escapeByte (byte : UInt8) : List Char :=
  if isSafe byte then [Char.ofNat byte.toNat]
  else '%' :: (hex 2 byte.toNat).map Char.toUpper

/-- A query as it is sent back. -/
def escape (query : String) : String :=
  String.ofList (query.toUTF8.toList.flatMap escapeByte)

end LineArithmetic.Http.Query
