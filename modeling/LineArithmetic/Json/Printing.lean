import LineArithmetic.Binary64.Printing
import LineArithmetic.Json.Basic
import LineArithmetic.Text.Hex

/-!
# JSON as text

Strings are written with as few escapes as possible: quotes, backslashes and
controls are escaped, and so are the two separators that some readers take for
line breaks.  A value is written on one line, or with its parts on lines of
their own and indented.
-/

namespace LineArithmetic.Json

open Text

/-- A character inside a string. -/
def escapeChar (c : Char) : List Char :=
  if c = '"' then ['\\', '"']
  else if c = '\\' then ['\\', '\\']
  else if c = '\n' then ['\\', 'n']
  else if c = '\r' then ['\\', 'r']
  else if c = '\t' then ['\\', 't']
  else if c = '\x0C' then ['\\', 'f']
  else if c = '\x08' then ['\\', 'b']
  else if c.toNat < 0x20 ∨ c.toNat = 0x2028 ∨ c.toNat = 0x2029 then
    '\\' :: 'u' :: hex 4 c.toNat
  else [c]

/-- A code point inside a string; a surrogate can only be written by number. -/
def escapePoint (p : CodePoint) : List Char :=
  match p.toChar? with
  | some c => escapeChar c
  | none => '\\' :: 'u' :: hex 4 p.val

/-- A string between quotes. -/
def stringText (points : List CodePoint) : String :=
  String.ofList ('"' :: points.flatMap escapePoint ++ ['"'])

/-- What stands around and between the parts of a value at a depth. -/
structure Layout where
  /-- The line break in front of a part at a depth, if parts get their own lines. -/
  lineBreak : Nat → String
  colon : String

namespace Layout

/-- Everything on one line, without spaces. -/
def compact : Layout := ⟨fun _ => "", ":"⟩

/-- Every part on a line of its own, indented by its depth. -/
def indented (width : Nat) : Layout :=
  ⟨fun depth => "\n" ++ String.ofList (List.replicate (width * depth) ' '), ": "⟩

/-- Parts between brackets. -/
def enclose (layout : Layout) (depth : Nat) (opening closing : String)
    (parts : List String) : String :=
  if parts.isEmpty then opening ++ closing
  else
    opening ++ layout.lineBreak (depth + 1) ++
      ("," ++ layout.lineBreak (depth + 1)).intercalate parts ++
      layout.lineBreak depth ++ closing

end Layout

/-- The text of a value at a depth. -/
def textAt (layout : Layout) (depth : Nat) : Json → String
  | .null => "null"
  | .bool b => if b then "true" else "false"
  | .int n => toString n
  | .float x => x.text
  | .string points => stringText points
  | .array items =>
    layout.enclose depth "[" "]" (items.map fun item => textAt layout (depth + 1) item)
  | .object members =>
    layout.enclose depth "\x7b" "\x7d" (members.map fun member =>
      stringText member.1 ++ layout.colon ++ textAt layout (depth + 1) member.2)
  termination_by json => sizeOf json
  decreasing_by
    · simp_wf
      have := List.sizeOf_lt_of_mem ‹_›
      omega
    · simp_wf
      rename_i h
      have := List.sizeOf_lt_of_mem h
      have : sizeOf member = 1 + sizeOf member.1 + sizeOf member.2 := by
        cases member; simp
      omega

/-- The text of a value. -/
def print (layout : Layout) (json : Json) : String :=
  textAt layout 0 json

end LineArithmetic.Json
