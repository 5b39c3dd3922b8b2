import LineArithmetic.Http.Service
import LineArithmetic.Proofs.Acceptance
import LineArithmetic.Proofs.CheckedEvaluation
import LineArithmetic.Proofs.Documents
import LineArithmetic.Proofs.Json.Printing
import LineArithmetic.Proofs.Json.Reading
import LineArithmetic.Proofs.Utf8
import LineArithmetic.Settings

/-!
# The answer to a document

A document that is short enough and holds no null character is always answered, and the
answer is JSON that tells about every line (`answer_tells_every_line`).  What is
submitted is any text that spells the document as JSON, and what is answered spells the
report, so neither side depends on how this service writes or reads.

* A value is told by `valueJson`, where numbers that JSON cannot hold are told by words
  (`toldBy_valueJson`), so results tell about lines (`tellsLine_entryJson`).
* A report of such results can be written (`TellLines.spells_print`), and read again
  (`TellLines.readable`).
* A submission passes every check in front of the document (`answer_submission`): its
  headers are closed facts, and its body is decoded, read and accepted
  (`bodyData_submission`, `accept_submittedJson`).
-/

namespace LineArithmetic

/-! ## Values of lines -/

/-- How JSON tells the value of a line: numbers stay integers or decimals, and those that
JSON has no spelling for are told by words. -/
inductive Value.ToldBy : Value → Json → Prop where
  | void : ToldBy .void .null
  | int (n : Int) : ToldBy (.number (.int n)) (.int n)
  | finite (negative : Bool) (rank : Fin Binary64.rankLimit) :
      ToldBy (.number (.float (.finite negative rank))) (.float (.finite negative rank))
  | infinity : ToldBy (.number (.float (.infinite false))) (.ofText "Infinity")
  | minusInfinity : ToldBy (.number (.float (.infinite true))) (.ofText "-Infinity")
  | nan : ToldBy (.number (.float .nan)) (.ofText "NaN")
  | message (text : String) : ToldBy (.text text) (.ofText text)

/-- The value of a line is nothing, a number or a message. -/
theorem Node.OfLine.eval_cases {node : Node} (h : node.OfLine) {value : Value}
    (hvalue : node.eval = .ok value) :
    value = .void ∨ (∃ n, value = .number n) ∨ ∃ text, value = .text text := by
  cases h with
  | void => exact Or.inl (Except.ok.inj hvalue).symm
  | tree c =>
    rw [c.eval_tree] at hvalue
    exact Or.inr (Or.inl ⟨c.value, (Except.ok.inj hvalue).symm⟩)
  | diagnostic d => exact Or.inr (Or.inr ⟨d.message, (Except.ok.inj hvalue).symm⟩)

namespace Http

open Text

/-- The value of a line is told. -/
theorem toldBy_valueJson {node : Node} (h : node.OfLine) {value : Value}
    (hvalue : node.eval = .ok value) : value.ToldBy (valueJson value.jsonSafe) := by
  rcases h.eval_cases hvalue with rfl | ⟨n, rfl⟩ | ⟨text, rfl⟩
  · exact .void
  · cases n with
    | int n => exact .int n
    | float x =>
      cases x with
      | nan => exact .nan
      | infinite negative =>
        cases negative with
        | false => exact .infinity
        | true => exact .minusInfinity
      | finite negative rank => exact .finite negative rank
  · exact .message text

/-! ## Results -/

/-- Whether a result tells about a line: its number, and what it compiles to, by kind,
rendering and value. -/
def TellsLine (line : String) (number : Nat) (result : Json) : Prop :=
  ∃ node kind tree value told, (compileLine line number).result = .ok node ∧
    node.kind = .ok kind ∧ node.render = .ok tree ∧ node.eval = .ok value ∧ value.ToldBy told ∧
    result = .ofMembers [("line", .int number), ("type", .ofText kind.label),
      ("tree", .ofText tree), ("value", told)]

/-- Whether a result is of a type. -/
def hasType (label : String) (result : Json) : Bool :=
  match result.member? "type" with
  | some (.string points) => points == codePoints label
  | _ => false

/-- What is told about the results of a document. -/
def reportJson (results : List Json) : Json :=
  .ofMembers [("status", .int 200), ("data", .ofMembers [
    ("results", .array results), ("error_count", .int (results.countP (hasType "ERROR")))])]

theorem hasType_entryJson (entry : Entry) : hasType "ERROR" (entryJson entry) = entry.isError := by
  have hmember : (entryJson entry).member? "type" = some (.ofText entry.type) := by
    simp [entryJson, Json.member?, Json.ofMembers, codePoints_injective.eq_iff, Entry.jsonSafe]
  rw [hasType, hmember, Bool.eq_iff_iff]
  simp only [Json.ofText, Entry.isError, beq_iff_eq, codePoints_injective.eq_iff]
  rfl

theorem countP_entryJson (entries : List Entry) :
    (entries.map entryJson).countP (hasType "ERROR") = entries.countP Entry.isError := by
  rw [List.countP_map]
  exact List.countP_congr fun entry _ => by rw [Function.comp, hasType_entryJson]

theorem resultsJson_eq (entries : List Entry) :
    resultsJson entries = reportJson (entries.map entryJson) := by
  rw [resultsJson, reportJson, countP_entryJson]

section Entries

variable {line : String} {number : Nat} {entry : Entry}

theorem tellsLine_entryJson (h : Entry.ofNode number (lineNode line number) = .ok entry) :
    TellsLine line number (entryJson entry) := by
  obtain ⟨hline, hkind, htree, hvalue⟩ := Entry.ofNode_eq_ok_iff.mp h
  have hof := Node.ofLine_lineNode line number
  obtain ⟨kind, hkind'⟩ := hof.exists_kind
  have htype : kind.label = entry.type := by
    rw [hkind'] at hkind
    exact Except.ok.inj hkind
  refine ⟨_, kind, entry.tree, entry.value, _, result_compileLine line number, hkind', htree, hvalue,
    toldBy_valueJson hof hvalue, ?_⟩
  rw [entryJson, Entry.jsonSafe, hline, htype]

theorem writable_told {value : Value} {told : Json} (h : value.ToldBy told) :
    Json.Writable (.value told) := by
  cases h with
  | void => exact .null
  | int n => exact .int n
  | finite negative rank => exact .float negative rank
  | infinity | minusInfinity | nan => exact .string _
  | message text => exact .string text

theorem TellsLine.writable {result : Json} (h : TellsLine line number result) :
    Json.Writable (.value result) := by
  obtain ⟨node, kind, tree, value, told, -, -, -, -, htold, rfl⟩ := h
  refine Json.writable_ofMembers ?_
  simp only [List.forall_mem_cons]
  exact ⟨.int _, .string _, .string _, writable_told htold, nofun⟩

theorem readable_told {value : Value} {told : Json} (h : value.ToldBy told)
    (hsmall : value.IsSmall) (depth : Nat) : Json.Readable depth (.value told) := by
  have hlimit : 2 ^ 53 < 10 ^ digitLimit :=
    calc 2 ^ 53 < 10 ^ 16 := by decide
      _ ≤ 10 ^ digitLimit := Nat.pow_le_pow_right (by decide) (by decide)
  cases h with
  | void => exact .null
  | int n => exact .int (Nat.lt_of_le_of_lt hsmall hlimit)
  | finite negative rank => exact .float _
  | infinity | minusInfinity | nan => exact .string _
  | message text => exact .string _

theorem TellsLine.readable {result : Json} (h : TellsLine line number result)
    (hnumber : number < 10 ^ digitLimit) (depth : Nat) :
    Json.Readable (depth + 1) (.value result) := by
  obtain ⟨node, kind, tree, value, told, -, -, -, heval, htold, rfl⟩ := h
  refine .object (.members ?_)
  simp only [List.map_cons, List.forall_mem_cons]
  exact ⟨.int hnumber, .string _, .string _, readable_told htold (Node.isSmall_of_eval heval) _,
    nofun⟩

end Entries

/-! ## Reports -/

section Report

variable {document : String} {entries : List Entry} {results : List Json}

/-- Whether results tell about the lines of a document, one about each. -/
structure TellLines (document : String) (results : List Json) : Prop where
  length : results.length = document.toList.count '\n' + 1
  line : ∀ i line, (Text.lines document)[i]? = some line →
    ∃ result, results[i]? = some result ∧ TellsLine line (i + 1) result

theorem tellLines_entries (h : Entry.ofNodes (documentNodes document) = .ok entries) :
    TellLines document (entries.map entryJson) := by
  refine ⟨?_, fun i line hline => ?_⟩
  · rw [List.length_map, Entry.length_eq_of_document h, length_lines]
  · obtain ⟨entry, hentry, hof⟩ := Entry.exists_of_line h hline
    refine ⟨entryJson entry, ?_, tellsLine_entryJson hof⟩
    rw [List.getElem?_map, hentry, Option.map_some]

/-- Every result tells about a line. -/
theorem TellLines.exists_line (h : TellLines document results) {result : Json}
    (hresult : result ∈ results) :
    ∃ line number, number ≤ results.length ∧ TellsLine line number result := by
  obtain ⟨i, hi, rfl⟩ := List.mem_iff_getElem.mp hresult
  have hlines : i < (Text.lines document).length := by
    rw [length_lines, ← h.length]
    exact hi
  obtain ⟨result, hresult', hline⟩ := h.line i _ (List.getElem?_eq_getElem hlines)
  obtain rfl := Option.some.inj ((List.getElem?_eq_getElem hi).symm.trans hresult')
  exact ⟨_, i + 1, hi, hline⟩

/-- A report is written as JSON that spells it. -/
theorem TellLines.spells_print (h : TellLines document results) :
    Json.Spells (reportJson results) ((reportJson results).print .compact).toList := by
  have hresults : ∀ result ∈ results, Json.Writable (.value result) := by
    intro result hresult
    obtain ⟨line, number, -, hline⟩ := h.exists_line hresult
    exact hline.writable
  refine Json.spells_print (Json.writable_ofMembers ?_)
  simp only [List.forall_mem_cons]
  refine ⟨.int _, Json.writable_ofMembers ?_, nofun⟩
  simp only [List.forall_mem_cons]
  exact ⟨Json.writable_array hresults, .int _, nofun⟩

/-- A report of lines whose numbers are not too long can be read. -/
theorem TellLines.readable (h : TellLines document results)
    (hlength : results.length < 10 ^ digitLimit) (depth : Nat) :
    Json.Readable (depth + 4) (.value (reportJson results)) := by
  have hresults : ∀ result ∈ results, Json.Readable (depth + 1) (.value result) := by
    intro result hresult
    obtain ⟨line, number, hnumber, hline⟩ := h.exists_line hresult
    exact hline.readable (Nat.lt_of_le_of_lt hnumber hlength) depth
  have hstatus : (200 : Int).natAbs < 10 ^ digitLimit :=
    calc 200 < 10 ^ 3 := by decide
      _ ≤ 10 ^ digitLimit := Nat.pow_le_pow_right (by decide) (by decide)
  have hcount : (Int.ofNat (results.countP (hasType "ERROR"))).natAbs < 10 ^ digitLimit :=
    Nat.lt_of_le_of_lt List.countP_le_length hlength
  refine .object (.members ?_)
  simp only [List.map_cons, List.forall_mem_cons]
  refine ⟨.int hstatus, .object (.members ?_), nofun⟩
  simp only [List.map_cons, List.forall_mem_cons]
  exact ⟨.array (.items hresults), .int hcount, nofun⟩

/-- The report about a document, by the results that are told about its lines. -/
def resultsReport (results : List Json) : Log.Record :=
  ⟨.info, .service, "Compiled document: " ++ toString results.length ++ " lines, " ++
    toString (results.countP (hasType "ERROR")) ++ " errors"⟩

/-- Whether records are those of a document with the given results: those of its
compilation, and one about the results. -/
structure Reports (document : String) (results : List Json) (records : List Log.Record) :
    Prop where
  tells : TellLines document results
  records : ∃ compilation, compileDocument document = .ok compilation ∧
    records = compilation.records ++ [resultsReport results]

theorem compiledReport_eq (entries : List Entry) :
    compiledReport entries = resultsReport (entries.map entryJson) := by
  rw [compiledReport, resultsReport, countSummary, List.length_map, countP_entryJson]
  simp only [String.append_assoc]

/-- The results in the answer to a document are its entries. -/
theorem answerDocument_eq (h : Entry.ofNodes (documentNodes document) = .ok entries)
    (layout : Json.Layout) : answerDocument layout document =
      .json layout 200 (reportJson (entries.map entryJson))
        ((documentNodes document).flatMap compilationReports ++
          [resultsReport (entries.map entryJson)]) := by
  rw [answerDocument, evaluateDocument_of_ofNodes h, ← compiledReport_eq, ← resultsJson_eq]

/-- The answer to a document is a report about its lines, with the records of it. -/
theorem exists_answerDocument_reports (layout : Json.Layout) (document : String) :
    ∃ results records, Reports document results records ∧
      answerDocument layout document = .json layout 200 (reportJson results) records := by
  obtain ⟨entries, hentries⟩ := Entry.exists_ofNodes document
  exact ⟨entries.map entryJson, _, ⟨tellLines_entries hentries, _, compileDocument_eq document,
    rfl⟩, answerDocument_eq hentries layout⟩

theorem exists_answerDocument_eq (layout : Json.Layout) (document : String) :
    ∃ results records, TellLines document results ∧
      answerDocument layout document = .json layout 200 (reportJson results) records := by
  obtain ⟨results, records, hreports, hanswer⟩ := exists_answerDocument_reports layout document
  exact ⟨results, records, hreports.tells, hanswer⟩

end Report

/-! ## Answering a submission -/

/-- A submitted text with the headers that clients send by themselves. -/
def submission (host : String) (accept : Option String) (text : String) : Request :=
  ⟨"POST", documentPath, "", some "application/json", accept, host, text.toUTF8.data.toList⟩

/-- What JSON text a document is submitted as. -/
def submittedJson (document : String) : Json :=
  .ofMembers [("document", .ofText document)]

section Submission

variable {service : Service} {host document text : String} {accept : Option String}

theorem readContent_json : readContent "application/json" = .ok ⟨.json, none⟩ := rfl

theorem readRequest_submission (host : String) (accept : Option String) (text : String) :
    readRequest (submission host accept text) = .ok ⟨.json, none⟩ := by
  obtain ⟨bytes, hpath⟩ : ∃ bytes, Charset.Latin1.encode documentPath.toList = .ok bytes :=
    ⟨_, rfl⟩
  simp only [readRequest, submission, hpath, Option.getD_some, readContent_json]
  rfl

/-- A request that accepts anything, or does not say, is answered on one line. -/
theorem negotiate_default (haccept : accept = none ∨ accept = some "*/*") :
    negotiate .standard "" accept = .ok (some .compact) := by
  rcases haccept with rfl | rfl <;> rfl

/-- A text that spells a document is read as that. -/
theorem bodyData_submission (host : String) (accept : Option String)
    (hspelled : Json.Spells (submittedJson document) text.toList) :
    bodyData (submission host accept text) ⟨.json, none⟩ = .ok (submittedJson document) := by
  have hbody : (submission host accept text).body = Charset.Utf8.encode text.toList :=
    Charset.Utf8.encode_toList text
  have hsome : (submission host accept text).body.isEmpty = false := by
    obtain ⟨c, more, hcons⟩ := List.exists_cons_of_ne_nil hspelled.ne_nil
    obtain ⟨byte, tail, hbyte⟩ := Charset.Utf8.exists_utf8EncodeChar_eq_cons c
    rw [hbody, hcons, Charset.Utf8.encode_cons hbyte]
    rfl
  have htype : ¬(MediaType.maxLength < "application/json".length ∨
      (!MediaType.json.admitsJson) = true) := by
    decide
  have htext : bodyText .standard (submission host accept text).body = .ok text.toList := by
    rw [hbody]
    simp only [bodyText, Query.Encoding.standard, Charset.decode, Charset.Utf8.decode_encode]
    rfl
  have hreadable : Json.Readable nestingLimit (.value (submittedJson document)) := by
    refine .object (.members ?_)
    simp only [List.map_cons, List.forall_mem_cons]
    exact ⟨.string _, nofun⟩
  have hread := Json.read_of_spells hspelled hreadable
  rw [bodyData, if_neg (by simp [hsome])]
  refine (if_neg htype).trans ?_
  rw [Option.getD_none, htext]
  simp only [hread]
  rfl

/-- A document is accepted character for character if it may be. -/
theorem accept_submittedJson {limit : Int} (hnull : '\x00' ∉ document.toList)
    (hlength : (document.length : Int) ≤ limit) :
    Submission.accept limit (submittedJson document) = .ok document := by
  have hmember : (submittedJson document).member? "document" = some (.ofText document) := by
    simp [submittedJson, Json.member?, Json.ofMembers]
  exact Submission.accept_eq_ok ⟨_, hmember, .string document⟩ hnull hlength

/-- An accepted document is answered. -/
theorem answer_submission (hhost : isAllowedHost service.allowedHosts host = true)
    (haccept : accept = none ∨ accept = some "*/*") (hnull : '\x00' ∉ document.toList)
    (hlength : (document.length : Int) ≤ service.documentLimit)
    (hspelled : Json.Spells (submittedJson document) text.toList) :
    service.answer (submission host accept text) = .ok (answerDocument .compact document) := by
  have hpost : upperCase "POST" = "POST" := by decide +kernel
  have hanswer : service.post .compact (submission host accept text) ⟨.json, none⟩ =
      answerDocument .compact document := by
    simp only [Service.post, bodyData_submission host accept hspelled,
      accept_submittedJson hnull hlength]
  have hpath : service.atDocumentPath (submission host accept text) ⟨.json, none⟩ =
      service.respond .compact (submission host accept text) ⟨.json, none⟩ := by
    have hnegotiate : negotiate ((none : Option Query.Encoding).getD .standard)
        (submission host accept text).query (submission host accept text).accept =
          .ok (some .compact) := negotiate_default haccept
    simp only [Service.atDocumentPath, hnegotiate]
  have hread : service.answerRead (submission host accept text) ⟨.json, none⟩ =
      service.respond .compact (submission host accept text) ⟨.json, none⟩ := by
    have hallowed : isAllowedHost service.allowedHosts (submission host accept text).host = true :=
      hhost
    have haddress : (submission host accept text).path = documentPath := rfl
    simp only [Service.answerRead, hallowed, Bool.not_true, Bool.false_eq_true, if_false, haddress,
      if_true, hpath]
  have hmethod : upperCase (submission host accept text).method = "POST" := hpost
  simp only [Service.answer, readRequest_submission, Except.map, hread, Service.respond, hmethod,
    if_true, hanswer]

end Submission

/-- Every document is answered by JSON that tells about each of its lines.

The document is submitted by any text that spells it, to a host that is served and with
the headers that clients send by themselves.  If it holds no null character and is not
too long, then the answer has status 200, and its body spells a report with one result
for each line, in order: the number of the line, the kind and the rendering of what it
compiles to, and its value.  The report counts the results of type `ERROR`.  The reader
of this library reads the body as that report, unless numbers of lines are too long for
it. -/
theorem answer_tells_every_line (service : Service) {host : String}
    (hhost : isAllowedHost service.allowedHosts host = true) {accept : Option String}
    (haccept : accept = none ∨ accept = some "*/*") (document : String)
    (hnull : '\x00' ∉ document.toList)
    (hlength : (document.length : Int) ≤ service.documentLimit) (text : String)
    (hspelled : Json.Spells (.ofMembers [("document", .ofText document)]) text.toList) :
    ∃ response body results, service.answer (submission host accept text) = .ok response ∧
      response.status = 200 ∧ response.contentType = "application/json" ∧
      response.body = some body ∧ Json.Spells (reportJson results) body.toList ∧
      (document.length + 1 < 10 ^ digitLimit →
        Json.read nestingLimit body.toList = .ok (reportJson results)) ∧
      results.length = document.toList.count '\n' + 1 ∧
      ∀ i line, (Text.lines document)[i]? = some line →
        ∃ result, results[i]? = some result ∧ TellsLine line (i + 1) result := by
  obtain ⟨results, records, htell, hanswer⟩ := exists_answerDocument_eq .compact document
  have hname : MediaType.json.name = "application/json" := by decide
  have hread : document.length + 1 < 10 ^ digitLimit →
      Json.read nestingLimit ((reportJson results).print .compact).toList =
        .ok (reportJson results) := by
    intro hshort
    have hlines : results.length ≤ document.length + 1 := by
      rw [htell.length, ← String.length_toList]
      exact Nat.succ_le_succ List.count_le_length
    have hreadable : Json.Readable nestingLimit (.value (reportJson results)) :=
      htell.readable (Nat.lt_of_le_of_lt hlines hshort) 966
    exact Json.read_of_spells htell.spells_print hreadable
  refine ⟨_, _, results, answer_submission hhost haccept hnull hlength hspelled, ?_, ?_, ?_,
    htell.spells_print, hread, htell.length, htell.line⟩
  · rw [hanswer]
    rfl
  · rw [hanswer]
    exact hname
  · rw [hanswer]
    rfl

/-- A service with the settings that hold where nothing is set. -/
def defaultService : Service :=
  ⟨["localhost", "127.0.0.1", "testserver"], Settings.defaultDocumentLimit⟩

/-- A text of a document with a blank, a line break and two escapes. -/
def escapedText : String := "\x7b \"document\":\"0 / 1\\n\\u00e9\"\x7d\n"

theorem spells_escapedText :
    Json.Spells (.ofMembers [("document", .ofText "0 / 1\né")]) escapedText.toList := by
  have hzero : Json.SpellsChar '0' ['0'] := .plain (by decide) (by decide) (by decide)
  have hblank : Json.SpellsChar ' ' [' '] := .plain (by decide) (by decide) (by decide)
  have hslash : Json.SpellsChar '/' ['/'] := .plain (by decide) (by decide) (by decide)
  have hone : Json.SpellsChar '1' ['1'] := .plain (by decide) (by decide) (by decide)
  have hbreak : Json.SpellsChar '\n' ['\\', 'n'] := .short (by decide)
  have haccent : Json.SpellsChar 'é' ['\\', 'u', '0', '0', 'e', '9'] := .number (by decide)
  have hinside : Json.SpellsChars "0 / 1\né".toList "0 / 1\\n\\u00e9".toList :=
    .cons hzero (.cons hblank (.cons hslash (.cons hblank (.cons hone (.cons hbreak
      (.cons haccent .nil))))))
  have hbefore : Json.IsSpaces [' '] := by simp [Json.IsSpaces]
  have hafter : Json.IsSpaces ['\n'] := by simp [Json.IsSpaces]
  have hvalue := (Json.SpellsPart.string rfl (.quoted hinside)).unpadded
  have hmember := Json.SpellsPart.lastMember rfl hbefore (Json.spellsText_stringText "document")
    Json.isSpaces_nil hvalue
  exact .padded Json.isSpaces_nil (.object hmember) hafter

/-- A division by zero is answered by a word, next to a line that does not compile. -/
theorem answer_infinity : ∃ response body results,
    defaultService.answer (submission "testserver" none escapedText) = .ok response ∧
    response.status = 200 ∧ response.body = some body ∧
    Json.Spells (reportJson results) body.toList ∧ results.length = 2 ∧
    results[0]? = some (.ofMembers [("line", .int 1), ("type", .ofText "BINARY_EXPRESSION"),
      ("tree", .ofText "[ BINARY_EXPRESSION /, [ NUMBER 1 ], [ NUMBER 0 ] ]"),
      ("value", .ofText "Infinity")]) := by
  have hhost : isAllowedHost defaultService.allowedHosts "testserver" = true := by decide +kernel
  obtain ⟨response, body, results, hanswer, hstatus, -, hbody, hspells, -, hlength, htells⟩ :=
    answer_tells_every_line defaultService hhost (Or.inl rfl) "0 / 1\né" (by decide) (by decide)
      escapedText spells_escapedText
  obtain ⟨result, hresult, node, kind, tree, value, told, hnode, hkind, htree, hvalue, htold, rfl⟩ :=
    htells 0 "0 / 1" (by decide)
  have hknown : (compileLine "0 / 1" 1).result.map (fun n => (n.kind, n.render, n.eval)) =
      .ok (.ok .binary, .ok "[ BINARY_EXPRESSION /, [ NUMBER 1 ], [ NUMBER 0 ] ]",
        .ok (.number (.float (.infinite false)))) := by
    decide +kernel
  have hfirst : (compileLine "0 / 1" 1).result = .ok node := hnode
  rw [hfirst, Except.map, Except.ok.injEq, hkind, htree, hvalue] at hknown
  simp only [Prod.mk.injEq, Except.ok.injEq] at hknown
  obtain ⟨rfl, rfl, rfl⟩ := hknown
  cases htold with
  | infinity => exact ⟨response, body, results, hanswer, hstatus, hbody, hspells, hlength, hresult⟩

end Http

end LineArithmetic
