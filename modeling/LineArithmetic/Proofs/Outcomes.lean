import LineArithmetic.Proofs.Output

/-!
# What a run leaves behind

A run of a document that could be read leaves three things behind: the output of all
lines, the records of the compilation with a summary, and a failure if it is asked for
and some lines do not compile.  `finish_eq` gives all three in one equation; only the
failure depends on the option to fail on errors, and only the output on the form in
which lines are written.

The failure names the lines that do not compile.  It takes them from the entries,
by their type; `mem_errorLines_iff` says that these are the lines that compile to
a diagnostic, and `pairwise_errorLines` that they are in order.
-/

namespace LineArithmetic

/-! ## Entries -/

namespace Entry

variable {document : String} {entries : List Entry}

/-- The numbers of entries increase from line to line. -/
theorem pairwise_line (h : Entry.ofNodes (documentNodes document) = .ok entries) :
    (entries.map Entry.line).Pairwise (· < ·) := by
  have hline : ∀ (i : Nat) (hi : i < entries.length), entries[i].line = i + 1 := by
    intro i hi
    obtain ⟨line, -, hof⟩ := exists_line_of_getElem? h (List.getElem?_eq_getElem hi)
    exact (ofNode_eq_ok_iff.mp hof).1
  rw [List.pairwise_map, List.pairwise_iff_getElem]
  intro i j hi hj hij
  rw [hline i hi, hline j hj]
  omega

/-- What a line compiles to is told by its entry. -/
theorem exists_node_of_line (h : Entry.ofNodes (documentNodes document) = .ok entries) {i : Nat}
    {line : String} (hline : (Text.lines document)[i]? = some line) :
    ∃ entry node, entries[i]? = some entry ∧ (compileLine line (i + 1)).result = .ok node ∧
      entry.line = i + 1 ∧ node.kind.map Node.Kind.label = .ok entry.type ∧
      node.render = .ok entry.tree ∧ node.eval = .ok entry.value := by
  obtain ⟨entry, hentry, hof⟩ := exists_of_line h hline
  exact ⟨entry, _, hentry, result_compileLine line _, ofNode_eq_ok_iff.mp hof⟩

end Entry

namespace Command

variable {document : String} {entries : List Entry}

/-! ## Lines that do not compile -/

/-- The lines that a failure names are in order. -/
theorem pairwise_errorLines (h : Entry.ofNodes (documentNodes document) = .ok entries) :
    (errorLines entries).Pairwise (· < ·) :=
  (Entry.pairwise_line h).sublist (List.filter_sublist.map Entry.line)

/-- The lines that a failure names are those that compile to a diagnostic. -/
theorem mem_errorLines_iff (h : Entry.ofNodes (documentNodes document) = .ok entries) {n : Int} :
    n ∈ errorLines entries ↔ ∃ (i : Nat) (line : String) (d : Diagnostic), n = i + 1 ∧
      (Text.lines document)[i]? = some line ∧
      (compileLine line n).result = .ok (.diagnostic d) := by
  simp only [errorLines, List.mem_map, List.mem_filter]
  constructor
  · rintro ⟨entry, ⟨hmem, herror⟩, rfl⟩
    obtain ⟨i, hentry⟩ := List.getElem?_of_mem hmem
    obtain ⟨line, hline, hof⟩ := Entry.exists_line_of_getElem? h hentry
    obtain ⟨d, hd⟩ := (Entry.isError_iff hof).mp herror
    have hnumber : entry.line = i + 1 := (Entry.ofNode_eq_ok_iff.mp hof).1
    refine ⟨i, line, d, hnumber, hline, ?_⟩
    rw [hnumber, result_compileLine, hd]
  · rintro ⟨i, line, d, rfl, hline, hd⟩
    obtain ⟨entry, hentry, hof⟩ := Entry.exists_of_line h hline
    rw [result_compileLine] at hd
    have herror : entry.isError = true := (Entry.isError_iff hof).mpr ⟨d, Except.ok.inj hd⟩
    exact ⟨entry, ⟨List.mem_of_getElem? hentry, herror⟩, (Entry.ofNode_eq_ok_iff.mp hof).1⟩

/-- The lines that a failure names are those of type `ERROR`. -/
theorem errorLines_eq (entries : List Entry) :
    errorLines entries = (entries.filter fun entry => entry.type = "ERROR").map Entry.line :=
  rfl

/-- The failure of a document some lines of which do not compile. -/
def lineFailure (entries : List Entry) : Option Failure :=
  if errorLines entries = [] then none else some (.compilation (errorLines entries))

theorem lineFailure_eq_none_iff : lineFailure entries = none ↔ errorLines entries = [] := by
  simp [lineFailure]

theorem eq_of_lineFailure {failure : Failure} (h : lineFailure entries = some failure) :
    failure = .compilation (errorLines entries) := by
  unfold lineFailure at h
  split at h
  · cases h
  · exact (Option.some.inj h).symm

/-! ## Runs of documents that were read -/

/-- The summary counts the lines and those of them that do not compile. -/
theorem ranReport_eq (path : String) (entries : List Entry) : ranReport path entries =
    ⟨.info, .command, "Ran document " ++ path ++ ": " ++ toString entries.length ++ " lines, " ++
      toString (errorLines entries).length ++ " errors"⟩ := by
  rw [ranReport, countSummary, errorLines, List.length_map, ← List.countP_eq_length_filter]
  simp only [String.append_assoc]

/-- A run writes what it is asked to write about each entry and a line feed behind it,
and adds its summary to the records. -/
theorem finish_eq (h : Entry.ofNodes (documentNodes document) = .ok entries)
    (tree failOnError : Bool) (path : String) (records : List Log.Record) :
    finish tree failOnError path ⟨entries, records⟩ =
      ⟨String.join (entries.map fun entry =>
          (if tree then entry.tree else entry.value.format) ++ "\n"),
        if failOnError then lineFailure entries else none,
        records ++ [⟨.info, .command, "Ran document " ++ path ++ ": " ++
          toString entries.length ++ " lines, " ++ toString (errorLines entries).length ++
          " errors"⟩]⟩ := by
  have hfailure : (if failOnError && !(errorLines entries).isEmpty then
      some (Failure.compilation (errorLines entries)) else none) =
        if failOnError then lineFailure entries else none := by
    by_cases hnone : errorLines entries = [] <;> simp [lineFailure, hnone]
  rw [finish, hfailure, outputOf_eq h, ranReport_eq, List.map_map]
  rfl

/-- A run writes and reports either nothing or everything.

* Where a path leads to no bytes, the run announces that and leaves nothing else
  behind.
* Where the bytes are the encoding of no text, the run is broken off by that and
  leaves nothing else behind.
* Otherwise the bytes are those of a document, whose line breaks may be kept or
  unified.  The run writes its entries, one about each line and with a line feed behind
  it, and reports all that there is to report up to the summary.  It fails only with the
  option to fail on errors, and then exactly if there are lines of type `ERROR`, which
  are those that compile to a diagnostic.  The failure is announced, does not depend on
  what is written of the lines, and names the numbers of those lines in order. -/
theorem run_all_or_nothing (files : Reader) (input : Input) (path : String)
    (hpath : '\x00' ∉ path.toList) :
    (∀ fault, source files input path = .error fault →
      (Failure.unreadable path fault).isAnnounced = true ∧ ∀ tree failOnError,
        run files input (commandLine tree failOnError path) =
          ⟨"", some (.unreadable path fault), []⟩) ∧
    (∀ stream, source files input path = .ok stream →
      (∀ text : String, stream.bytes ≠ text.toUTF8.data.toList) →
        ∃ fault, Charset.Utf8.decode .strict stream.bytes = .error fault ∧
          (Failure.undecodable fault).isAnnounced = false ∧ ∀ tree failOnError,
            run files input (commandLine tree failOnError path) =
              ⟨"", some (.undecodable fault), []⟩) ∧
    ∀ (text : String) (breaks : Text.LineBreaks),
      source files input path = .ok ⟨text.toUTF8.data.toList, breaks⟩ →
      ∃ evaluated failing failure, evaluateDocument (documentOf breaks text) = .ok evaluated ∧
        evaluated.entries.length = (Text.lines (documentOf breaks text)).length ∧
        (∀ (i : Nat) line, (Text.lines (documentOf breaks text))[i]? = some line →
          ∃ entry node, evaluated.entries[i]? = some entry ∧
            (compileLine line (i + 1)).result = .ok node ∧ entry.line = i + 1 ∧
            node.kind.map Node.Kind.label = .ok entry.type ∧
            node.render = .ok entry.tree ∧ node.eval = .ok entry.value) ∧
        (∀ tree failOnError, run files input (commandLine tree failOnError path) =
          ⟨String.join (evaluated.entries.map fun entry =>
              (if tree then entry.tree else entry.value.format) ++ "\n"),
            if failOnError then failure else none,
            evaluated.records ++ [⟨.info, .command, "Ran document " ++ path ++ ": " ++
              toString evaluated.entries.length ++ " lines, " ++ toString failing.length ++
              " errors"⟩]⟩) ∧
        failing = (evaluated.entries.filter fun entry => entry.type = "ERROR").map Entry.line ∧
        failing.Pairwise (· < ·) ∧
        (∀ n, n ∈ failing ↔ ∃ (i : Nat) (line : String) (d : Diagnostic), n = i + 1 ∧
          (Text.lines (documentOf breaks text))[i]? = some line ∧
          (compileLine line n).result = .ok (.diagnostic d)) ∧
        (failure = none ↔ failing = []) ∧
        ∀ announced, failure = some announced → announced.isAnnounced = true ∧
          announced.message =
            "Compilation failed on line(s) " ++ ", ".intercalate (failing.map toString) := by
  refine ⟨fun fault hfault => ⟨rfl, ?_⟩, fun stream hstream hnone => ?_,
    fun text breaks htext => ?_⟩
  · exact run_of_failure (readDocument_of_fault hpath hfault)
  · obtain ⟨fault, hdecode, hfault⟩ := exists_decodeDocument_eq hnone
    refine ⟨fault, hdecode, rfl, run_of_failure ?_⟩
    rw [readDocument_of_source hpath hstream, hfault]
  · obtain ⟨entries, hentries, hevaluate, hrun⟩ :=
      exists_run_of_readDocument (readDocument_of_text hpath htext)
    refine ⟨_, errorLines entries, lineFailure entries, hevaluate,
      Entry.length_eq_of_document hentries, fun _ _ => Entry.exists_node_of_line hentries,
      fun tree failOnError => ?_, errorLines_eq entries, pairwise_errorLines hentries,
      fun _ => mem_errorLines_iff hentries, lineFailure_eq_none_iff, ?_⟩
    · rw [hrun, finish_eq hentries]
    · intro announced hannounced
      obtain rfl := eq_of_lineFailure hannounced
      exact ⟨rfl, rfl⟩

/-- The files of a folder with one document, whose second line alone compiles. -/
def twoFailing : Reader :=
  (Folder.ofFiles [("d", "1 +\n2\r\n3 4".toUTF8.data.toList)]).read

/-- Two lines fail in a document, and the run says so after everything else.  From a
stream that keeps its carriage returns comes one line, which does not fail. -/
theorem run_twoFailing :
    (∃ failure, failure.isAnnounced = true ∧
      failure.message = "Compilation failed on line(s) 1, 3" ∧
      ∀ tree failOnError,
        (run twoFailing ⟨[], .kept⟩ (commandLine tree failOnError "d")).output =
          (run twoFailing ⟨[], .kept⟩ (commandLine tree false "d")).output ∧
        (run twoFailing ⟨[], .kept⟩ (commandLine tree failOnError "d")).failure =
          if failOnError then some failure else none) ∧
    run (Folder.mk []).read ⟨"1 +\r2".toUTF8.data.toList, .kept⟩ (commandLine false true "-") =
      ⟨"3\n", none, [⟨.info, .command, "Ran document -: 1 lines, 0 errors"⟩]⟩ := by
  constructor
  · obtain ⟨-, -, hreadable⟩ := run_all_or_nothing twoFailing ⟨[], .kept⟩ "d" (by decide)
    obtain ⟨evaluated, failing, failure, hevaluated, -, -, hrun, hfailing, -, -, hnone, hsome⟩ :=
      hreadable "1 +\n2\r\n3 4" .unified (by decide +kernel)
    have hknown : (evaluateDocument (documentOf .unified "1 +\n2\r\n3 4")).map (fun e =>
        (e.entries.filter fun entry => entry.type = "ERROR").map Entry.line) = .ok [1, 3] := by
      decide +kernel
    rw [hevaluated] at hknown
    obtain rfl : failing = [1, 3] := hfailing.trans (Except.ok.inj hknown)
    cases failure with
    | none => exact absurd (hnone.mp rfl) (by decide)
    | some announced =>
      obtain ⟨hannounced, hmessage⟩ := hsome announced rfl
      refine ⟨announced, hannounced, hmessage.trans (by decide), fun tree failOnError => ?_⟩
      rw [hrun, hrun]
      exact ⟨rfl, rfl⟩
  · obtain ⟨-, -, hreadable⟩ := run_all_or_nothing (Folder.mk []).read
      ⟨"1 +\r2".toUTF8.data.toList, .kept⟩ "-" (by decide)
    obtain ⟨evaluated, failing, failure, hevaluated, -, -, hrun, hfailing, -, -, hnone, -⟩ :=
      hreadable "1 +\r2" .kept rfl
    have hknown : evaluateDocument (documentOf .kept "1 +\r2") =
        .ok ⟨[⟨1, "BINARY_EXPRESSION", "[ BINARY_EXPRESSION +, [ NUMBER 2 ], [ NUMBER 1 ] ]",
          .number (.int 3)⟩], []⟩ := by
      decide +kernel
    rw [hevaluated] at hknown
    obtain rfl := Except.ok.inj hknown
    obtain rfl : failing = [] := hfailing
    obtain rfl := hnone.mpr rfl
    exact hrun false true

end Command

end LineArithmetic
