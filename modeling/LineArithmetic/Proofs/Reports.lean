import LineArithmetic.Proofs.Answer

/-!
# What is reported

Compiling a document reports its diagnostics in the order of the lines and nothing
else (`exists_compilation`): the parser is silent for every line.

The service reports one record more, about the whole document.  A request goes through
its checks before anything is compiled, so the answers of each layer of the service
fall into two classes: those to a document that was submitted and accepted, and those
without records (`Service.post_cases`, `respond_cases`, `answerRead_cases`).

Compiling is not the last thing that can fail.  The type that is answered with is built
from the range that the request accepts, and it is read once more when the answer is
written.  If that fails, the document has been compiled and reported already: the answer
is lost (`LosesAnswer`), and its records are not (`Service.answerRead_of_losesAnswer`).
`records_match_answer` says what is reported in each case, and `answer_unwritten` is a
request for which the answer is lost and the records are not.
-/

namespace LineArithmetic

/-! ## Records of a compilation -/

/-- The report of a line that does not compile, if the line is such. -/
def Node.errorReport? : Node → Option Log.Record
  | .diagnostic d => some ⟨.debug, .compiler, "Compilation error: " ++ d.message⟩
  | _ => none

theorem flatMap_compilationReports (nodes : List Node) :
    nodes.flatMap compilationReports = nodes.filterMap Node.errorReport? := by
  induction nodes with
  | nil => rfl
  | cons node nodes ih =>
    rw [List.flatMap_cons, List.filterMap_cons, ih]
    cases node <;> rfl

/-- A document compiles to what its lines compile to, each without a report of the
parser, and reports exactly the diagnostics among them. -/
theorem exists_compilation (document : String) :
    ∃ compilation, compileDocument document = .ok compilation ∧
      compilation.nodes.length = (Text.lines document).length ∧
      (∀ (i : Nat) (line : String), (Text.lines document)[i]? = some line →
        ∃ node, compilation.nodes[i]? = some node ∧
          (compileLine line (i + 1)).result = .ok node ∧
          (compileLine line (i + 1)).records = []) ∧
      compilation.records = compilation.nodes.filterMap Node.errorReport? := by
  refine ⟨_, compileDocument_eq document, ?_, fun i line hline => ?_, ?_⟩
  · show (documentNodes document).length = _
    rw [length_documentNodes, Text.length_lines]
  · refine ⟨lineNode line (i + 1), ?_, result_compileLine line _, records_compileLine line _⟩
    show (documentNodes document)[i]? = _
    rw [getElem?_documentNodes, hline, Option.map_some]
  · exact flatMap_compilationReports _

namespace Http

open Text

/-! ## The layers of the service -/

/-- Whether a request submits a document that is accepted. -/
structure Submits (service : Service) (request : Request) (content : Content)
    (document : String) : Prop where
  method : upperCase request.method = "POST"
  accepted : ∃ data, bodyData request content = .ok data ∧
    Submission.accept service.documentLimit data = .ok document

/-- Whether an answer is one to something else than a document: nothing is reported, and
what was submitted is not answered with success. -/
structure IsRefusal (request : Request) (response : Response) : Prop where
  records : response.records = []
  status : upperCase request.method = "POST" → response.status ≠ 200

section Layers

variable (service : Service) (layout : Json.Layout) (request : Request) (content : Content)

theorem isRefusal_page {status : Nat} (h : status ≠ 200) (location : Option String) :
    IsRefusal request (.page status location) :=
  ⟨rfl, fun _ => h⟩

theorem isRefusal_json {status : Nat} (h : status ≠ 200) (body : Json) :
    IsRefusal request (.json layout status body []) :=
  ⟨rfl, fun _ => h⟩

theorem isRefusal_answerFault (fault : BodyFault) :
    IsRefusal request (answerFault layout fault) := by
  cases fault with
  | unsupportedType contentType => exact isRefusal_json layout request (by decide) _
  | unsupportedCharset name => exact isRefusal_json layout request (by decide) _
  | undecodable fault => exact isRefusal_json layout request (by decide) _
  | unreadable text fault =>
    cases fault with
    | tooDeep => exact isRefusal_page request (by decide) none
    | _ => exact isRefusal_json layout request (by decide) _

/-- The answer to a body is that to the document in it, or a refusal. -/
theorem Service.post_cases :
    (∃ data document, bodyData request content = .ok data ∧
      Submission.accept service.documentLimit data = .ok document ∧
      service.post layout request content = answerDocument layout document) ∨
    IsRefusal request (service.post layout request content) := by
  unfold Service.post
  split
  · exact Or.inr (isRefusal_answerFault layout request _)
  · rename_i data hdata
    split
    · exact Or.inr (isRefusal_json layout request (by decide) _)
    · rename_i document haccept
      exact Or.inl ⟨data, document, hdata, haccept, rfl⟩

theorem Service.respond_cases :
    (∃ document, Submits service request content document ∧
      service.respond layout request content = answerDocument layout document) ∨
    IsRefusal request (service.respond layout request content) := by
  unfold Service.respond
  dsimp only
  split
  · rename_i hmethod
    rcases service.post_cases layout request content with
      ⟨data, document, hdata, haccept, hanswer⟩ | hrefusal
    · exact Or.inl ⟨document, ⟨hmethod, data, hdata, haccept⟩, hanswer⟩
    · exact Or.inr hrefusal
  · rename_i hmethod
    split <;> exact Or.inr ⟨rfl, fun hpost => absurd hpost hmethod⟩

theorem isRefusal_refuse (refusal : Refusal) : IsRefusal request (Service.refuse refusal) := by
  cases refusal with
  | unreadableQuery fault => cases fault <;> exact isRefusal_page request (by decide) none
  | unknownFormat => exact isRefusal_json .compact request (by decide) _
  | unsortable => exact isRefusal_page request (by decide) none
  | notAcceptable => exact isRefusal_json .compact request (by decide) _

/-- Whether a layout can be chosen for the answer to a request, but the type that is
answered with cannot be read. -/
def AnswerTypeUnreadable : Prop :=
  negotiate (content.encoding.getD .standard) request.query request.accept = .ok none

/-- A request whose answer is lost: its document is accepted where documents are, but the
type that is answered with cannot be read. -/
structure LosesAnswer (document : String) : Prop where
  host : isAllowedHost service.allowedHosts request.host = true
  path : request.path = documentPath
  unreadable : AnswerTypeUnreadable request content
  submits : Submits service request content document

/-- The answer to a request is that to the document that it submits, such an answer that
is lost, or a refusal. -/
theorem Service.answerRead_cases :
    (∃ document layout, Submits service request content document ∧
      service.answerRead request content = answerDocument layout document) ∨
    (∃ document, LosesAnswer service request content document ∧
      service.answerRead request content = (answerDocument .compact document).unwritten) ∨
    IsRefusal request (service.answerRead request content) := by
  unfold Service.answerRead
  split
  · exact Or.inr (Or.inr (isRefusal_page request (by decide) _))
  rename_i hhost
  split
  · rename_i hpath
    unfold Service.atDocumentPath
    split
    · exact Or.inr (Or.inr (isRefusal_refuse request _))
    · rename_i hnone
      rcases service.respond_cases .compact request content with
        ⟨document, hsubmits, hanswer⟩ | hrefusal
      · have hallowed : isAllowedHost service.allowedHosts request.host = true := by
          simpa using hhost
        exact Or.inr (Or.inl ⟨document, ⟨hallowed, hpath, hnone, hsubmits⟩, by rw [hanswer]⟩)
      · have hstatus : (500 : Nat) ≠ 200 := by decide
        exact Or.inr (Or.inr ⟨hrefusal.records, fun _ => hstatus⟩)
    · rename_i layout hlayout
      rcases service.respond_cases layout request content with
        ⟨document, hsubmits, hanswer⟩ | hrefusal
      · exact Or.inl ⟨document, layout, hsubmits, hanswer⟩
      · exact Or.inr (Or.inr hrefusal)
  split
  · exact Or.inr (Or.inr (isRefusal_page request (by decide) _))
  · exact Or.inr (Or.inr (isRefusal_page request (by decide) _))

end Layers

section Lost

variable {service : Service} {request : Request} {content : Content} {document : String}

theorem Service.respond_of_submits (h : Submits service request content document)
    (layout : Json.Layout) :
    service.respond layout request content = answerDocument layout document := by
  obtain ⟨data, hdata, haccept⟩ := h.accepted
  unfold Service.respond
  dsimp only
  rw [if_pos h.method, Service.post, hdata]
  simp only [haccept]

/-- An answer that is lost is written as a page, with the records of the answer. -/
theorem Service.answerRead_of_losesAnswer (h : LosesAnswer service request content document) :
    service.answerRead request content = (answerDocument .compact document).unwritten := by
  have hhost : ¬ (!isAllowedHost service.allowedHosts request.host) = true := by simp [h.host]
  rw [Service.answerRead, if_neg hhost, if_pos h.path, Service.atDocumentPath, h.unreadable]
  simp only [Service.respond_of_submits h.submits]

end Lost

/-! ## Records of an answer -/

/-- Only a request that can be read is answered. -/
theorem Service.answer_eq_ok_iff {service : Service} {request : Request} {response : Response} :
    service.answer request = .ok response ↔
      ∃ content, readRequest request = .ok content ∧
        service.answerRead request content = response := by
  unfold Service.answer
  cases readRequest request <;> simp [Except.map]

/-- Nothing fails without an answer once a request has been read. -/
theorem Service.answer_eq_error_iff {service : Service} {request : Request}
    {fault : RequestFault} :
    service.answer request = .error fault ↔ readRequest request = .error fault := by
  unfold Service.answer
  cases readRequest request <;> simp [Except.map]

/-- What is reported agrees with what is compiled and with what is answered.

Compiling a document reports its diagnostics, in the order of the lines, and nothing
else; the parser reports nothing about any line.  A request without an answer is one that
could not even be read.  An answer with success to a submission has the records of the
submitted document and one more, which counts the results and the errors as the body
does.  If a submitted document is compiled and the answer to it is lost, a page is
answered, and the records are those that the answer would have had.  Any other answer has
no records. -/
theorem records_match_answer :
    (∀ document, ∃ compilation, compileDocument document = .ok compilation ∧
      compilation.nodes.length = (Text.lines document).length ∧
      (∀ (i : Nat) (line : String), (Text.lines document)[i]? = some line →
        ∃ node, compilation.nodes[i]? = some node ∧
          (compileLine line (i + 1)).result = .ok node ∧
          (compileLine line (i + 1)).records = []) ∧
      compilation.records = compilation.nodes.filterMap Node.errorReport?) ∧
    ∀ (service : Service) (request : Request),
      (∀ fault, service.answer request = .error fault → readRequest request = .error fault) ∧
      ∀ response, service.answer request = .ok response →
        ∃ content, readRequest request = .ok content ∧
          (upperCase request.method = "POST" ∧ response.status = 200 →
            ∃ document layout results, Submits service request content document ∧
              response.body = some ((reportJson results).print layout) ∧
              Reports document results response.records) ∧
          (∀ document, LosesAnswer service request content document →
            response.status = 500 ∧ response.body = none ∧
              ∃ results, Reports document results response.records) ∧
          (¬ (upperCase request.method = "POST" ∧ response.status = 200) →
            (∀ document, ¬ LosesAnswer service request content document) →
              response.records = []) := by
  refine ⟨exists_compilation, fun service request =>
    ⟨fun fault => Service.answer_eq_error_iff.mp, fun response hanswer => ?_⟩⟩
  obtain ⟨content, hcontent, rfl⟩ := Service.answer_eq_ok_iff.mp hanswer
  have hcases := service.answerRead_cases request content
  refine ⟨content, hcontent, ?_, fun document hloses => ?_, fun hnot hwritten => ?_⟩
  · rintro ⟨hpost, hstatus⟩
    rcases hcases with ⟨document, layout, hsubmits, heq⟩ | ⟨document, -, heq⟩ | hrefusal
    · obtain ⟨results, records, hreports, hdocument⟩ :=
        exists_answerDocument_reports layout document
      rw [heq, hdocument]
      exact ⟨document, layout, results, hsubmits, rfl, hreports⟩
    · have hpage : (500 : Nat) ≠ 200 := by decide
      rw [heq] at hstatus
      exact absurd hstatus hpage
    · exact absurd hstatus (hrefusal.status hpost)
  · obtain ⟨results, records, hreports, hdocument⟩ :=
      exists_answerDocument_reports .compact document
    rw [Service.answerRead_of_losesAnswer hloses, hdocument]
    exact ⟨rfl, rfl, results, hreports⟩
  · rcases hcases with ⟨document, layout, hsubmits, heq⟩ | ⟨document, hloses, -⟩ | hrefusal
    · obtain ⟨results, records, -, hdocument⟩ := exists_answerDocument_reports layout document
      rw [heq, hdocument] at hnot
      exact absurd ⟨hsubmits.method, rfl⟩ hnot
    · exact absurd hloses (hwritten document)
    · exact hrefusal.records

/-- A submitted document of which one line does not compile. -/
def oneErrorRequest : Request :=
  submission "testserver" none "\x7b\"document\":\"1 x\\n2\"\x7d"

/-- A submitted document with a range of types in which a quoted value looks like
parameters.  Their sections cannot be put in order. -/
def unreadableTypeRequest : Request :=
  submission "testserver" (some "*/*; a=\"x;b*=2;b*0=3\"") "\x7b\"document\":\"1\"\x7d"

/-- Without its quotes the value makes the type that is answered with unreadable. -/
theorem losesAnswer_unreadableTypeRequest {content : Content}
    (h : readRequest unreadableTypeRequest = .ok content) :
    LosesAnswer defaultService unreadableTypeRequest content "1" := by
  obtain rfl : content = ⟨.json, none⟩ :=
    Except.ok.inj (h.symm.trans (readRequest_submission _ _ _))
  have hwritable : Json.Writable (.value (submittedJson "1")) := by
    refine Json.writable_ofMembers ?_
    rw [List.forall_mem_singleton]
    exact .string "1"
  have hprint : (submittedJson "1").print .compact = "\x7b\"document\":\"1\"\x7d" := by
    decide +kernel
  have hspelled := Json.spells_print hwritable
  rw [hprint] at hspelled
  exact ⟨by decide +kernel, rfl, rfl, by decide +kernel, _, bodyData_submission _ _ hspelled,
    accept_submittedJson (by decide) (by decide)⟩

/-- The answer to the first request counts two results and one error, and so does its last
record.  The answer to the second one is lost, but not its records. -/
theorem records_oneError :
    (∃ response document layout results,
      defaultService.answer oneErrorRequest = .ok response ∧
      response.body = some ((reportJson results).print layout) ∧
      Reports document results response.records ∧
      response.records.map Log.Record.text =
        ["DEBUG expressions.dsl.compiler: Compilation error: [COMPILATION ERROR]: " ++
            "Invalid token provided => expected a number literal, got 'x' on line 1",
          "INFO expressions.views: Compiled document: 2 lines, 1 errors"]) ∧
    ∃ response results, defaultService.answer unreadableTypeRequest = .ok response ∧
      response.status = 500 ∧ response.body = none ∧ Reports "1" results response.records := by
  constructor
  · have hknown : (defaultService.answer oneErrorRequest).map
          (fun response => (response.status, response.records.map Log.Record.text)) =
        .ok (200, ["DEBUG expressions.dsl.compiler: Compilation error: [COMPILATION ERROR]: " ++
            "Invalid token provided => expected a number literal, got 'x' on line 1",
          "INFO expressions.views: Compiled document: 2 lines, 1 errors"]) := by
      decide +kernel
    have hpost : upperCase oneErrorRequest.method = "POST" := by decide +kernel
    cases hanswer : defaultService.answer oneErrorRequest with
    | error fault =>
      rw [hanswer] at hknown
      cases hknown
    | ok response =>
      rw [hanswer] at hknown
      obtain ⟨hstatus, htexts⟩ := Prod.mk.inj (Except.ok.inj hknown)
      obtain ⟨content, -, hsuccess, -⟩ :=
        (records_match_answer.2 defaultService oneErrorRequest).2 response hanswer
      obtain ⟨document, layout, results, -, hbody, hreports⟩ := hsuccess ⟨hpost, hstatus⟩
      exact ⟨response, document, layout, results, rfl, hbody, hreports, htexts⟩
  · have hanswer : defaultService.answer unreadableTypeRequest =
        .ok (defaultService.answerRead unreadableTypeRequest ⟨.json, none⟩) :=
      Service.answer_eq_ok_iff.mpr ⟨_, readRequest_submission _ _ _, rfl⟩
    obtain ⟨content, hcontent, -, hlost, -⟩ :=
      (records_match_answer.2 defaultService unreadableTypeRequest).2 _ hanswer
    obtain ⟨hstatus, hbody, results, hreports⟩ :=
      hlost "1" (losesAnswer_unreadableTypeRequest hcontent)
    exact ⟨_, results, hanswer, hstatus, hbody, hreports⟩

/-- A request is not answered with success, but its document has been reported. -/
theorem answer_unwritten :
    (defaultService.answer unreadableTypeRequest).map
        (fun response => (response.status, response.records)) =
      .ok (500, [⟨.info, .service, "Compiled document: 1 lines, 0 errors"⟩]) := by
  decide +kernel

end Http

end LineArithmetic
