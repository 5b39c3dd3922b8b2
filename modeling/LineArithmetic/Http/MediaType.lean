import LineArithmetic.Http.HeaderValue

/-!
# Media types

A type in two parts with named parameters.  In a range of types either part may
be a star; ranges are ordered by how specific they are.
-/

namespace LineArithmetic.Http

/-- A media type, or a range of them, with its parameters in order. -/
structure MediaType where
  mainType : List Char
  subType : List Char
  parameters : List (List Char × List Char)
  deriving DecidableEq, Repr

namespace MediaType

/-- The type that a header value names. -/
def ofValue (value : HeaderValue) : MediaType :=
  ⟨value.word.takeWhile (· != '/'), (value.word.dropWhile (· != '/')).drop 1, value.parameters⟩

/-- The longest text of a type that is compared with others. -/
def maxLength : Nat := 256

/-- How specific a range is: any type, any type of one main type, one type, or
one type with parameters beyond its weight. -/
def precedence (m : MediaType) : Nat :=
  if m.mainType = ['*'] then 0
  else if m.subType = ['*'] then 1
  else if m.parameters.all fun parameter => parameter.1 = ['q'] then 2
  else 3

/-- Whether a type without parameters lies in a range. -/
def isIn (m range : MediaType) : Bool :=
  (range.subType == ['*'] || range.subType == m.subType) &&
    (range.mainType == ['*'] || range.mainType == m.mainType)

/-- The one type that is read and written. -/
def json : MediaType := ⟨"application".toList, "json".toList, []⟩

/-- The text of a type without parameters. -/
def name (m : MediaType) : String :=
  String.ofList (m.mainType ++ '/' :: m.subType)

/-- Whether a type is JSON or a range that holds it. -/
def admitsJson (m : MediaType) : Bool :=
  json.isIn m

end MediaType

end LineArithmetic.Http
