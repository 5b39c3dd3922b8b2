import LineArithmetic.Document
import LineArithmetic.Http.Host
import LineArithmetic.Http.Negotiation
import LineArithmetic.Json.Reading
import LineArithmetic.Submission
import LineArithmetic.Text.UpperCase

/-!
# The service

One address takes documents and answers with the entries of their lines.  A
request is first read: one whose address or headers make no sense at all is a
fault and gets no answer.  Then it is checked in a fixed order: the host, the
address, the representation asked for, the method, the type of the body, the
body, and the document in it.  The first check that fails decides the answer, and
only a document that passes all of them is compiled.
-/

namespace LineArithmetic.Http

open Text

structure Request where
  method : String
  path : String
  query : String
  contentType : Option String
  accept : Option String
  host : String
  body : List UInt8

structure Response where
  status : Nat
  contentType : String
  allow : Option String
  location : Option String
  /-- The text of an answer in JSON; pages have none. -/
  body : Option String
  records : List Log.Record
  deriving DecidableEq, Repr

/-- What the service is set to. -/
structure Service where
  allowedHosts : List String
  documentLimit : Int

/-- The address that takes documents. -/
def documentPath : String := "/api/compile/"

/-- The methods that are answered. -/
def allowedMethods : String := "POST, OPTIONS"

namespace Response

/-- A page for people. -/
def page (status : Nat) (location : Option String) : Response :=
  ⟨status, "text/html; charset=utf-8", none, location, none, []⟩

/-- An answer in JSON. -/
def json (layout : Json.Layout) (status : Nat) (body : Json)
    (records : List Log.Record) : Response :=
  ⟨status, MediaType.json.name, some allowedMethods, none, some (body.print layout), records⟩

/-- What becomes of an answer that cannot be written down. -/
def unwritten (response : Response) : Response :=
  { page 500 none with records := response.records }

/-- An answer that only says what is wrong. -/
def detail (layout : Json.Layout) (status : Nat) (text : String) : Response :=
  json layout status (.ofMembers [("detail", .ofText text)]) []

end Response

/-- A value in JSON. -/
def valueJson : Value → Json
  | .void => .null
  | .number (.int n) => .int n
  | .number (.float x) => .float x
  | .text s => .ofText s
  | .truth b => .bool b

/-- An entry in JSON. -/
def entryJson (entry : Entry) : Json :=
  let safe := entry.jsonSafe
  .ofMembers [("line", .int safe.line), ("type", .ofText safe.type), ("tree", .ofText safe.tree),
    ("value", valueJson safe.value)]

/-- The answer to a document with the given entries. -/
def resultsJson (entries : List Entry) : Json :=
  .ofMembers [("status", .int 200), ("data", .ofMembers [
    ("results", .array (entries.map entryJson)),
    ("error_count", .int (entries.countP Entry.isError))])]

/-- The answer to a refused document. -/
def rejectionJson (rejection : Submission.Rejection) : Json :=
  .ofMembers [(rejection.field.name,
    .array (rejection.problems.map fun problem => .ofText problem.message))]

/-- What the service tells about itself. -/
def descriptionJson : Json :=
  .ofMembers [("name", .ofText "Compile Document Api"), ("description", .ofText ""),
    ("renders", .array [.ofText MediaType.json.name]),
    ("parses", .array [.ofText MediaType.json.name])]

/-- The report of a compiled document. -/
def compiledReport (entries : List Entry) : Log.Record :=
  ⟨.info, .service, "Compiled document: " ++ countSummary entries⟩

/-- The answer to an accepted document. -/
def answerDocument (layout : Json.Layout) (document : String) : Response :=
  match evaluateDocument document with
  | .error _ => .page 500 none
  | .ok evaluated =>
    .json layout 200 (resultsJson evaluated.entries)
      (evaluated.records ++ [compiledReport evaluated.entries])

/-! ## Reading a request -/

/-- Why a request cannot be read. -/
inductive RequestFault where
  | path (fault : Charset.Latin1.Unwritable)
  | header (fault : HeaderFault)
  | query (fault : Query.Fault)
  deriving DecidableEq, Repr

/-- The fault in words. -/
def RequestFault.message : RequestFault → String
  | .path fault => fault.message
  | .header fault => fault.message
  | .query fault => fault.message

/-- The content of a request: its type and the encoding that it names. -/
structure Content where
  type : MediaType
  encoding : Option Query.Encoding

/-- The encoding that a header value names, if it is one that is known. -/
def namedEncoding (value : HeaderValue) : Except HeaderFault (Option Query.Encoding) :=
  match value.parameter? "charset" with
  | none => .ok none
  | some name =>
    if name.contains '\x00' then .error .nullInCharset
    else .ok ((Charset.named? name).map fun named => ⟨name, named⟩)

/-- Reads what a request says about its content. -/
def readContent (contentType : String) : Except HeaderFault Content := do
  let value ← HeaderValue.read contentType
  return ⟨.ofValue value, ← namedEncoding value⟩

/-- Reads a request.  The query is read at once if the request names an
encoding. -/
def readRequest (request : Request) : Except RequestFault Content := do
  let _ ← (Charset.Latin1.encode request.path.toList).mapError .path
  let content ← (readContent (request.contentType.getD "")).mapError .header
  if let some encoding := content.encoding then
    let _ ← (Query.fields encoding request.query).mapError .query
  return content

/-! ## Reading a body -/

/-- Why a body is no data. -/
inductive BodyFault where
  | unsupportedType (contentType : String)
  | unsupportedCharset (name : List Char)
  | undecodable (fault : Charset.Fault)
  | unreadable (text : List Char) (fault : Json.Fault)

/-- How deeply the brackets of a body may stand inside one another. -/
def nestingLimit : Nat := 970

/-- The text of a body. -/
def bodyText (encoding : Query.Encoding) (body : List UInt8) : Except BodyFault (List Char) :=
  match encoding.named with
  | .binary | .undefined => .error (.unsupportedCharset encoding.name)
  | .text charset => (charset.decode .ofStream body).mapError .undecodable

/-- The data of a body.  An empty body holds an empty object, whatever its type. -/
def bodyData (request : Request) (content : Content) : Except BodyFault Json :=
  let contentType := request.contentType.getD ""
  if request.body.isEmpty then .ok (.object [])
  else if MediaType.maxLength < contentType.length ∨ !content.type.admitsJson then
    .error (.unsupportedType contentType)
  else
    match bodyText (content.encoding.getD .standard) request.body with
    | .error fault => .error fault
    | .ok text => (Json.read nestingLimit text).mapError (.unreadable text)

/-- The answer to a body that is no data. -/
def answerFault (layout : Json.Layout) : BodyFault → Response
  | .unsupportedType contentType =>
    .detail layout 415 ("Unsupported media type \"" ++ contentType ++ "\" in request.")
  | .unsupportedCharset name =>
    .detail layout 400 ("Unsupported charset \"" ++ String.ofList name ++
      "\" in request Content-Type header.")
  | .undecodable fault => .detail layout 400 ("JSON parse error - " ++ fault.message)
  | .unreadable _ .tooDeep => .page 500 none
  | .unreadable text fault =>
    .detail layout 400 ("JSON parse error - " ++ fault.message text)

/-! ## Answering -/

namespace Service

/-- The answer to a submitted document. -/
def post (service : Service) (layout : Json.Layout) (request : Request) (content : Content) :
    Response :=
  match bodyData request content with
  | .error fault => answerFault layout fault
  | .ok data =>
    match Submission.accept service.documentLimit data with
    | .error rejection => .json layout 400 (rejectionJson rejection) []
    | .ok document => answerDocument layout document

/-- The answer to a request for which no representation can be chosen. -/
def refuse : Refusal → Response
  | .unreadableQuery .tooManyFields => .page 400 none
  | .unreadableQuery _ | .unsortable => .page 500 none
  | .unknownFormat => .detail .compact 404 "Not found."
  | .notAcceptable => .detail .compact 406 "Could not satisfy the request Accept header."

/-- The answer to a request by its method. -/
def respond (service : Service) (layout : Json.Layout) (request : Request) (content : Content) :
    Response :=
  let method := upperCase request.method
  if method = "POST" then service.post layout request content
  else if method = "OPTIONS" then .json layout 200 descriptionJson []
  else .detail layout 405 ("Method \"" ++ method ++ "\" not allowed.")

/-- The answer to a request at the address that takes documents. -/
def atDocumentPath (service : Service) (request : Request) (content : Content) : Response :=
  match negotiate (content.encoding.getD .standard) request.query request.accept with
  | .error refusal => refuse refusal
  | .ok none => (service.respond .compact request content).unwritten
  | .ok (some layout) => service.respond layout request content

/-- The address with a slash at its end, for a request that left it out. -/
def redirection (query : String) : String :=
  documentPath ++ if query = "" then "" else "?" ++ Query.escape query

/-- The answer to a request that has been read. -/
def answerRead (service : Service) (request : Request) (content : Content) : Response :=
  if !isAllowedHost service.allowedHosts request.host then .page 400 none
  else if request.path = documentPath then service.atDocumentPath request content
  else if request.path ++ "/" = documentPath then .page 301 (some (redirection request.query))
  else .page 404 none

/-- The answer to a request. -/
def answer (service : Service) (request : Request) : Except RequestFault Response :=
  (readRequest request).map (service.answerRead request)

end Service

end LineArithmetic.Http
