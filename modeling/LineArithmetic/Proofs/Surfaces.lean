import LineArithmetic.Proofs.Identification
import LineArithmetic.Proofs.Output
import LineArithmetic.Proofs.Reports

/-!
# The command and the service show the same texts

The command writes values by `Value.format`, and the service puts them into JSON.  The
two take different ways to the same text: what is a string in JSON is written without
its quotes, and anything else is written as it stands in JSON
(`Value.IsOfLine.format_of_text`, `Value.IsOfLine.format_of_bare`).

So what a result shows is what is written about its entry
(`Http.shownText?_entryJson`).  The results of a document do not depend on the request
or the run: every answer to the document reports them
(`Http.Service.exists_answer_of_submits`), and every run writes what they show, also
where the document is read with its line breaks unified (`Command.lines_run`).
-/

namespace LineArithmetic

open Text

/-! ## Values -/

namespace Value

/-- The values that have no quotes in JSON: nothing, an integer or a finite number. -/
inductive IsBare : Value → Prop where
  | void : IsBare .void
  | int (n : Int) : IsBare (.number (.int n))
  | finite (negative : Bool) (rank : Fin Binary64.rankLimit) :
      IsBare (.number (.float (.finite negative rank)))

section Line

variable {v : Value}

/-- JSON holds the value of a line as it is, or holds what is written of it. -/
theorem IsOfLine.jsonSafe_cases (h : v.IsOfLine) :
    v.jsonSafe = .text v.format ∨ v.jsonSafe = v ∧ v.IsBare := by
  have htold := h.toldBy
  -- The relation has one case for each kind of value if what tells the value is a variable.
  generalize Http.valueJson v.jsonSafe = told at htold
  cases htold with
  | void => exact Or.inr ⟨rfl, .void⟩
  | int n => exact Or.inr ⟨rfl, .int n⟩
  | finite negative rank => exact Or.inr ⟨rfl, .finite negative rank⟩
  | infinity | minusInfinity | nan | message text => exact Or.inl rfl

/-- A value that is a string in JSON is written as that string. -/
theorem IsOfLine.format_of_text (h : v.IsOfLine) {text : String} (hsafe : v.jsonSafe = .text text) :
    v.format = text := by
  rcases h.jsonSafe_cases with hformat | ⟨hsame, hbare⟩
  · exact Value.text.inj (hformat.symm.trans hsafe)
  · rw [hsame] at hsafe
    rw [hsafe] at hbare
    cases hbare

/-- Any other value is written as in JSON. -/
theorem IsOfLine.format_of_bare (h : v.IsOfLine) (hsafe : ∀ text, v.jsonSafe ≠ .text text) :
    v.jsonSafe.IsBare ∧ ∀ layout, v.format = (Http.valueJson v.jsonSafe).print layout := by
  rcases h.jsonSafe_cases with hformat | ⟨hsame, hbare⟩
  · exact absurd hformat (hsafe v.format)
  · have htold := h.toldBy
    rw [hsame] at htold ⊢
    refine ⟨hbare, fun layout => ?_⟩
    rw [htold.print_eq layout, htold.format_eq]
    cases hbare <;> rfl

end Line

end Value

/-! ## Results -/

namespace Http

/-- What a result shows in a line of output: its tree or its value, without quotes. -/
def shownText? (tree : Bool) (result : Json) : Option String :=
  (result.member? (if tree then "tree" else "value")).map unquoted

theorem member?_tree_entryJson (entry : Entry) :
    (entryJson entry).member? "tree" = some (.ofText entry.tree) := by
  simp [entryJson, Json.member?, Json.ofMembers, codePoints_injective.eq_iff, Entry.jsonSafe]

theorem member?_value_entryJson (entry : Entry) :
    (entryJson entry).member? "value" = some (valueJson entry.value.jsonSafe) := by
  simp [entryJson, Json.member?, Json.ofMembers, Entry.jsonSafe]

variable {document : String} {entries : List Entry}

/-- The result about a line shows what is written about its entry. -/
theorem shownText?_entryJson {line : String} {number number' : Int} {entry : Entry}
    (h : Entry.ofNode number' (lineNode line number) = .ok entry) (tree : Bool) :
    shownText? tree (entryJson entry) = some (Command.entryText tree entry) := by
  cases tree with
  | true =>
    have htree := member?_tree_entryJson entry
    exact (congrArg (Option.map unquoted) htree).trans
      (congrArg some (ofCodePoints_codePoints entry.tree))
  | false =>
    have hvalue := member?_value_entryJson entry
    have heval := (Entry.ofNode_eq_ok_iff.mp h).2.2.2
    have hline : entry.value.IsOfLine :=
      ⟨line, number, _, result_compileLine line number, heval⟩
    exact (congrArg (Option.map unquoted) hvalue).trans
      (congrArg some hline.toldBy.format_eq.symm)

/-- The results of a document show what is written about its entries. -/
theorem map_shownText? (h : Entry.ofNodes (documentNodes document) = .ok entries) (tree : Bool) :
    (entries.map entryJson).map (shownText? tree) =
      (entries.map (Command.entryText tree)).map some := by
  rw [List.map_map, List.map_map]
  refine List.map_congr_left fun entry hmem => ?_
  obtain ⟨line, number, hof⟩ := Entry.exists_line_of_mem h hmem
  exact shownText?_entryJson hof tree

/-! ## Answers -/

section Answers

variable {service : Service} {request : Request} {content : Content} {document' : String}

/-- A request submits one document. -/
theorem Submits.unique (h : Submits service request content document)
    (h' : Submits service request content document') : document = document' := by
  obtain ⟨data, hdata, haccept⟩ := h.accepted
  obtain ⟨data', hdata', haccept'⟩ := h'.accepted
  obtain rfl := Except.ok.inj (hdata.symm.trans hdata')
  exact Except.ok.inj (haccept.symm.trans haccept')

/-- Success in the answer to a submission is the answer to the document in it. -/
theorem Service.exists_answer_of_submits {response : Response}
    (hcontent : readRequest request = .ok content)
    (hsubmits : Submits service request content document)
    (hanswer : service.answer request = .ok response) (hstatus : response.status = 200) :
    ∃ layout, response = answerDocument layout document := by
  obtain ⟨content', hcontent', rfl⟩ := Service.answer_eq_ok_iff.mp hanswer
  obtain rfl := Except.ok.inj (hcontent.symm.trans hcontent')
  rcases service.answerRead_cases request content with
    ⟨document', layout, hsubmits', heq⟩ | ⟨document', -, heq⟩ | hrefusal
  · obtain rfl := hsubmits.unique hsubmits'
    exact ⟨layout, heq⟩
  · have hpage : (500 : Nat) ≠ 200 := by decide
    rw [heq] at hstatus
    exact absurd hstatus hpage
  · exact absurd hstatus (hrefusal.status hsubmits.method)

end Answers

end Http

/-! ## Runs -/

namespace Command

variable {document : String} {entries : List Entry} {files : Reader} {input : Input}
  {path : String} {breaks : LineBreaks}

/-- The lines of the output of a run are the texts of the document's entries, if its
carriage returns stand in front of line feeds. -/
theorem lines_run (h : Entry.ofNodes (documentNodes document) = .ok entries)
    (hreturn : ReturnsEndLines document.toList) (hpath : '\x00' ∉ path.toList)
    (hsource : source files input path = .ok ⟨document.toUTF8.data.toList, breaks⟩)
    (tree failOnError : Bool) :
    Text.lines (run files input (commandLine tree failOnError path)).output =
      entries.map (entryText tree) ++ [""] := by
  obtain ⟨entries', hentries, -, hrun⟩ :=
    exists_run_of_readDocument (readDocument_of_text hpath hsource)
  -- What the command reads may have other lines than the document, but has the same trees.
  rw [documentNodes_documentOf hreturn, h] at hentries
  obtain rfl := Except.ok.inj hentries
  rw [hrun tree failOnError]
  exact lines_outputOf h tree

end Command

/-- The command line and the service show the same text.

The value of a line is written as the string that JSON holds for it, and if that is no
string, as the JSON of it.  So every document, whatever its lines are, has results of
which the following holds.

* An answer with success to a request that submits the document reports these results.
* A text that spells the document as JSON, sent with the headers that clients send by
  themselves, has such an answer if the document holds no null character and is not too
  long.
* If carriage returns stand in front of line feeds, a run on the document, from a file or
  from standard input, writes as many lines as there are results: each is the value of
  its result without quotes, or with `--tree` the tree. -/
theorem surfaces_show_same_text :
    (∀ v : Value, v.IsOfLine →
      (∀ text, v.jsonSafe = .text text → v.format = text) ∧
      ((∀ text, v.jsonSafe ≠ .text text) → v.jsonSafe.IsBare ∧
        ∀ layout, v.format = (Http.valueJson v.jsonSafe).print layout)) ∧
    ∀ document : String, ∃ results : List Json, Http.TellLines document results ∧
      (∀ (service : Http.Service) (request : Http.Request) (content : Http.Content)
        (response : Http.Response), Http.readRequest request = .ok content →
        Http.Submits service request content document →
        service.answer request = .ok response → response.status = 200 →
          ∃ layout, response.body = some ((Http.reportJson results).print layout)) ∧
      (∀ (service : Http.Service) (host : String) (accept : Option String) (text : String),
        Http.isAllowedHost service.allowedHosts host = true →
        accept = none ∨ accept = some "*/*" → '\x00' ∉ document.toList →
        (document.length : Int) ≤ service.documentLimit →
        Json.Spells (.ofMembers [("document", .ofText document)]) text.toList →
          ∃ response body, service.answer (Http.submission host accept text) = .ok response ∧
            response.status = 200 ∧ response.body = some body ∧
            Json.Spells (Http.reportJson results) body.toList) ∧
      ((∀ i : Nat, document.toList[i]? = some '\r' → document.toList[i + 1]? = some '\n') →
        ∀ (files : Command.Reader) (input : Command.Input) (path : String)
          (breaks : LineBreaks) (tree failOnError : Bool), '\x00' ∉ path.toList →
          Command.source files input path = .ok ⟨document.toUTF8.data.toList, breaks⟩ →
          ∃ texts, Text.lines (Command.run files input
              (Command.commandLine tree failOnError path)).output = texts ++ [""] ∧
            results.map (Http.shownText? tree) = texts.map some) := by
  refine ⟨fun v h => ⟨fun text => h.format_of_text, h.format_of_bare⟩, fun document => ?_⟩
  obtain ⟨entries, hentries⟩ := Entry.exists_ofNodes document
  have htells := Http.tellLines_entries hentries
  refine ⟨entries.map Http.entryJson, htells, ?_, ?_, ?_⟩
  · intro service request content response hcontent hsubmits hanswer hstatus
    obtain ⟨layout, rfl⟩ :=
      Http.Service.exists_answer_of_submits hcontent hsubmits hanswer hstatus
    rw [Http.answerDocument_eq hentries layout]
    exact ⟨layout, rfl⟩
  · intro service host accept text hhost haccept hnull hlength hspelled
    have hanswer := Http.answer_submission hhost haccept hnull hlength hspelled
    rw [Http.answerDocument_eq hentries .compact] at hanswer
    exact ⟨_, _, hanswer, rfl, rfl, htells.spells_print⟩
  · intro hreturn files input path breaks tree failOnError hpath hsource
    exact ⟨_, Command.lines_run hentries hreturn hpath hsource tree failOnError,
      Http.map_shownText? hentries tree⟩

/-- A quotient that is not finite, by the service and from standard input, whose line
breaks are kept. -/
theorem infinity_shown_alike : ∃ response body results,
    Http.defaultService.answer (Http.submission "testserver" none Http.escapedText) =
      .ok response ∧
    response.body = some body ∧ Json.Spells (Http.reportJson results) body.toList ∧
    Text.lines (Command.run (Command.Folder.mk []).read
        ⟨"0 / 1\né".toUTF8.data.toList, .kept⟩ (Command.commandLine false true "-")).output =
      ["Infinity", "[COMPILATION ERROR]: " ++
        "Invalid token provided => expected a number literal, got 'é' on line 2", ""] ∧
    results.map (Http.shownText? false) = [some "Infinity", some ("[COMPILATION ERROR]: " ++
      "Invalid token provided => expected a number literal, got 'é' on line 2")] := by
  obtain ⟨results, -, -, hanswer, hrun⟩ := surfaces_show_same_text.2 "0 / 1\né"
  have hhost : Http.isAllowedHost Http.defaultService.allowedHosts "testserver" = true := by
    decide +kernel
  obtain ⟨response, body, hresponse, -, hbody, hspells⟩ :=
    hanswer Http.defaultService "testserver" none Http.escapedText hhost (Or.inl rfl) (by decide)
      (by decide) Http.spells_escapedText
  have hreturn : ∀ i : Nat, "0 / 1\né".toList[i]? = some '\r' →
      "0 / 1\né".toList[i + 1]? = some '\n' := by
    intro i hi
    exact absurd (List.mem_of_getElem? hi) (by decide)
  obtain ⟨texts, hlines, hshown⟩ := hrun hreturn (Command.Folder.mk []).read
    ⟨"0 / 1\né".toUTF8.data.toList, .kept⟩ "-" .kept false true (by decide) rfl
  have hknown : Text.lines (Command.run (Command.Folder.mk []).read
      ⟨"0 / 1\né".toUTF8.data.toList, .kept⟩ (Command.commandLine false true "-")).output =
        ["Infinity", "[COMPILATION ERROR]: " ++
          "Invalid token provided => expected a number literal, got 'é' on line 2"] ++ [""] := by
    decide +kernel
  have htexts := List.append_cancel_right (hlines.symm.trans hknown)
  rw [htexts] at hshown
  exact ⟨response, body, results, hresponse, hbody, hspells, hknown, hshown⟩

end LineArithmetic
