import LineArithmetic.Binary64.Printing
import LineArithmetic.Json.Basic

/-!
# Submitted documents

A document is submitted as a JSON object whose member `document` is a string;
a number is taken as its text.  `accept` gives the document, character for
character, or every problem of the first kind that the data have: that they
are no object, that the member is missing or of the wrong type, that it holds
characters which are not allowed, or that it is too long.
-/

namespace LineArithmetic.Submission

open Text

/-- What a problem is about. -/
inductive Field where
  | whole
  | document
  deriving DecidableEq, Repr

def Field.name : Field → String
  | .whole => "non_field_errors"
  | .document => "document"

/-- What can be wrong with submitted data. -/
inductive Problem where
  | noData
  | notAnObject (typeName : String)
  | missing
  | isNull
  | notText
  | nullCharacter
  | surrogate (point : CodePoint)
  | tooLong (limit : Int)
  deriving DecidableEq, Repr

namespace Problem

/-- What the problem is about. -/
def field : Problem → Field
  | .noData | .notAnObject _ => .whole
  | _ => .document

def message : Problem → String
  | .noData => "No data provided"
  | .notAnObject typeName =>
    "Invalid data. Expected a dictionary, but got " ++ typeName ++ "."
  | .missing => "This field is required."
  | .isNull => "This field may not be null."
  | .notText => "Not a valid string."
  | .nullCharacter => "Null characters are not allowed."
  | .surrogate point =>
    "Surrogate characters are not allowed: U+" ++
      String.ofList ((Nat.toDigits 16 point.val).map Char.toUpper) ++ "."
  | .tooLong limit => "document must not exceed " ++ toString limit ++ " characters"

/-- The word by which a program tells problems apart. -/
def code : Problem → String
  | .noData | .isNull => "null"
  | .notAnObject _ | .notText | .tooLong _ => "invalid"
  | .missing => "required"
  | .nullCharacter => "null_characters_not_allowed"
  | .surrogate _ => "surrogate_characters_not_allowed"

end Problem

/-- Why data are refused: one or more problems with one field. -/
structure Rejection where
  first : Problem
  others : List Problem
  deriving DecidableEq, Repr

namespace Rejection

def problems (r : Rejection) : List Problem :=
  r.first :: r.others

def field (r : Rejection) : Field :=
  r.first.field

end Rejection

/-- The name of the type of a JSON value. -/
def typeName : Json → String
  | .null => "NoneType"
  | .bool _ => "bool"
  | .int _ => "int"
  | .float _ => "float"
  | .string _ => "str"
  | .array _ => "list"
  | .object _ => "dict"

/-- The code points of a member that is a string or a number. -/
def points? : Json → Option (List CodePoint)
  | .string points => some points
  | .int n => some (codePoints (toString n))
  | .float x => some (codePoints x.text)
  | _ => none

/-- The problems of characters that are not allowed. -/
def characterProblems (points : List CodePoint) : List Problem :=
  (if points.any fun p => p.val = 0 then [.nullCharacter] else []) ++
    (match points.find? CodePoint.isSurrogate with
      | some point => [.surrogate point]
      | none => [])

/-- Accepts the code points of a document. -/
def acceptPoints (limit : Int) (points : List CodePoint) : Except Rejection String :=
  match characterProblems points with
  | first :: others => .error ⟨first, others⟩
  | [] =>
    if limit < points.length then .error ⟨.tooLong limit, []⟩
    else .ok (ofCodePoints points)

/-- Accepts the member that is the document. -/
def acceptMember (limit : Int) : Option Json → Except Rejection String
  | none => .error ⟨.missing, []⟩
  | some .null => .error ⟨.isNull, []⟩
  | some json =>
    match points? json with
    | none => .error ⟨.notText, []⟩
    | some points => acceptPoints limit points

/-- Accepts a document of at most `limit` code points. -/
def accept (limit : Int) (data : Json) : Except Rejection String :=
  match data with
  | .null => .error ⟨.noData, []⟩
  | .object members => acceptMember limit (Json.member? "document" (.object members))
  | _ => .error ⟨.notAnObject (typeName data), []⟩

end LineArithmetic.Submission
