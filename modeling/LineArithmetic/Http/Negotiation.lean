import LineArithmetic.Http.MediaType
import LineArithmetic.Http.Query
import LineArithmetic.Json.Printing

/-!
# Choosing a representation

Answers are JSON, so choosing means finding out whether the request admits
JSON and how it wants it laid out.  A request may ask for a format by name,
and it may list the types that it accepts; the most specific one that admits
JSON counts, and its parameter `indent` asks for indented output.
-/

namespace LineArithmetic.Http

open Text

/-- Why no representation can be chosen. -/
inductive Refusal where
  | unreadableQuery (fault : Query.Fault)
  | unknownFormat
  /-- An accepted type has parameters whose sections cannot be put in order. -/
  | unsortable
  | notAcceptable
  deriving DecidableEq, Repr

/-- Whether a query asks for a format other than JSON. -/
def asksOtherFormat (fields : List (List Char × List Char)) : Bool :=
  match Query.value? fields "format" with
  | some format => !format.isEmpty && format != MediaType.json.subType
  | none => false

/-- The longest list of accepted types that is read, in characters. -/
def maxAcceptLength : Nat := 8192

/-- The greatest number of accepted types. -/
def maxAcceptedTypes : Nat := 64

/-- The texts of the types that a request accepts; any if it does not say.  A
list beyond the limits accepts nothing. -/
def acceptedTexts (header : Option String) : List String :=
  let text := header.getD "*/*"
  let types := splitText ',' text
  if maxAcceptLength < text.length ∨ maxAcceptedTypes < types.length then []
  else types.map fun type => String.ofList (trim isBlank type.toList)

/-- An accepted type with the text that names it. -/
structure Accepted where
  text : String
  type : MediaType

/-- An accepted type.  One that cannot be read accepts nothing. -/
def readAccepted (text : String) : Except Refusal (Option Accepted) :=
  if MediaType.maxLength < text.length then .ok none
  else
    match HeaderValue.read text with
    | .ok value => .ok (some ⟨text, .ofValue value⟩)
    | .error (.mixedSections ..) => .error .unsortable
    | .error _ => .ok none

/-- The types that a request accepts. -/
def acceptedTypes (header : Option String) : Except Refusal (List Accepted) :=
  ((acceptedTexts header).mapM readAccepted).map fun types => types.filterMap id

/-- The most specific type that admits JSON. -/
def chosenType? (types : List Accepted) : Option Accepted :=
  [3, 2, 1, 0].findSome? fun precedence =>
    types.find? fun accepted =>
      accepted.type.precedence = precedence && accepted.type.admitsJson

/-- The type that is answered with: a range is narrowed to JSON and keeps its
parameters. -/
def narrowed (accepted : Accepted) : String :=
  if accepted.type.precedence < 2 then
    ";".intercalate (MediaType.json.name :: accepted.type.parameters.map fun parameter =>
      String.ofList (parameter.1 ++ '=' :: parameter.2))
  else accepted.text

/-- The greatest indentation. -/
def maxIndent : Int := 8

/-- The layout that the parameters of a type ask for. -/
def layoutOf (type : HeaderValue) : Json.Layout :=
  match type.parameter? "indent" with
  | none => .compact
  | some value =>
    match readInteger (String.ofList value) with
    | .error _ => .compact
    | .ok n => if n ≤ 0 then .compact else .indented (min n maxIndent).toNat

/-- The layout of the answer to a request.  There is none if the type that is
answered with cannot be read: a value that was quoted in a range can hold
parameters of its own, and they need not make sense. -/
def negotiate (encoding : Query.Encoding) (query : String) (accept : Option String) :
    Except Refusal (Option Json.Layout) := do
  let fields ← (Query.fields encoding query).mapError .unreadableQuery
  if asksOtherFormat fields then throw .unknownFormat
  let types ← acceptedTypes accept
  match chosenType? types with
  | none => throw .notAcceptable
  | some accepted => return (HeaderValue.read (narrowed accepted)).toOption.map layoutOf

end LineArithmetic.Http
