import LineArithmetic.Command.Run
import LineArithmetic.Proofs.Documents
import LineArithmetic.Proofs.Utf8

/-!
# Runs of the command

The command reads a document as a whole before it does anything else, and a
document that was read is always evaluated to the end.  So a run ends in one of
two ways: with nothing but the failure to read (`run_of_failure`), or with the
output of all lines (`exists_run_of_readDocument`), and the option to fail on errors
changes only whether a failure comes behind that.

`source` is the stream of text that a path leads to, and `documentOf` the document
that a text in it is, with its line breaks kept or unified.
-/

namespace LineArithmetic.Command

/-! ## Arguments -/

/-- The arguments that ask for a document to be run.  Behind the mark any path
is a path, also one that looks like an option. -/
def commandLine (tree failOnError : Bool) (path : String) : List String :=
  (if tree then ["--tree"] else []) ++ (if failOnError then ["--fail-on-error"] else []) ++
    [endMark, path]

/-- An option alone: what it does is done, and reading goes on. -/
structure IsSwitch (argument : String) (spec : OptionSpec) : Prop where
  classified : classifyOne argument = .ok (.option ⟨argument, spec, none⟩)
  takesValue : spec.effect.takesValue = false
  isFinal : spec.effect.isFinal = false

theorem isSwitch_tree : IsSwitch "--tree" ⟨["--tree"], .tree⟩ :=
  ⟨by decide +kernel, rfl, rfl⟩

theorem isSwitch_failOnError : IsSwitch "--fail-on-error" ⟨["--fail-on-error"], .failOnError⟩ :=
  ⟨by decide +kernel, rfl, rfl⟩

section Switch

variable {argument : String} {spec : OptionSpec}

theorem IsSwitch.classify_cons (h : IsSwitch argument spec) (rest : List String) :
    classify (argument :: rest) =
      (classify rest).map ((argument, .option ⟨argument, spec, none⟩) :: ·) := by
  rw [classify, h.classified]

theorem IsSwitch.consume_cons (h : IsSwitch argument spec) (a : Arguments)
    (rest : List (String × Argument)) :
    consume a ((argument, .option ⟨argument, spec, none⟩) :: rest) =
      consume (a.set spec.effect) rest := by
  rw [consume.eq_def]
  simp only [h.takesValue, h.isFinal, Bool.false_eq_true, if_false]

end Switch

theorem classify_endMark (path : String) :
    classify [endMark, path] = .ok [(endMark, .endOfOptions), (path, .plain)] := by
  have hmark : classifyOne endMark = .ok .endOfOptions := by decide +kernel
  rw [classify, hmark]
  rfl

theorem consume_endMark {a : Arguments} (h : a.path = none) (path : String) :
    consume a [(endMark, .endOfOptions), (path, .plain)] = .ok { a with path := some path } := by
  rw [consume, h]
  simp only [Option.isSome_none, Bool.false_eq_true, if_false]
  rw [consume, h]
  simp only [Option.isSome_none, Bool.false_eq_true, if_false]
  rw [consume]

theorem readArguments_commandLine (tree failOnError : Bool) (path : String) :
    readArguments (commandLine tree failOnError path) =
      .ok { Arguments.none with path := some path, tree := tree, failOnError := failOnError } := by
  unfold readArguments
  cases tree <;> cases failOnError <;>
    simp only [commandLine, List.nil_append, List.cons_append, if_true, if_false,
      Bool.false_eq_true, isSwitch_tree.classify_cons, isSwitch_failOnError.classify_cons,
      classify_endMark, Except.map, isSwitch_tree.consume_cons,
      isSwitch_failOnError.consume_cons] <;>
    rw [consume_endMark rfl] <;>
    rfl

theorem run_commandLine (files : Reader) (input : Input) (tree failOnError : Bool)
    (path : String) : run files input (commandLine tree failOnError path) =
      runDocumentAt files input tree failOnError path := by
  rw [run, readArguments_commandLine]
  rfl

/-! ## Reading a document -/

/-- The stream of text that a path leads to. -/
def source (files : Reader) (input : Input) (path : String) : Except PathFault Input :=
  if path = standardInput then .ok input else (files path).map .ofFile

/-- The document that a text from outside is. -/
def documentOf : Text.LineBreaks → String → String
  | .kept, text => text
  | .unified, text => String.ofList (Text.unifyLineBreaks text.toList)

theorem decodeDocument_toUTF8 (text : String) (breaks : Text.LineBreaks) :
    decodeDocument ⟨text.toUTF8.data.toList, breaks⟩ = .ok (documentOf breaks text) := by
  rw [decodeDocument, Charset.Utf8.encode_toList, Charset.Utf8.decode_encode]
  cases breaks with
  | kept => exact congrArg Except.ok String.ofList_toList
  | unified => rfl

/-- A carriage return alone divides lines only where line breaks are unified. -/
example : documentOf .kept "1\r2" = "1\r2" ∧ documentOf .unified "1\r2" = "1\n2" := by decide

theorem exists_decodeDocument_eq {stream : Input}
    (h : ∀ text : String, stream.bytes ≠ text.toUTF8.data.toList) :
    ∃ fault, Charset.Utf8.decode .strict stream.bytes = .error fault ∧
      decodeDocument stream = .error (.undecodable fault) := by
  unfold decodeDocument
  cases hdecode : Charset.Utf8.decode .strict stream.bytes with
  | error fault => exact ⟨fault, rfl, rfl⟩
  | ok cs =>
    have hbytes := Charset.Utf8.decode_strict_eq_ok_iff.mp hdecode
    refine absurd ?_ (h (String.ofList cs))
    rw [hbytes, Charset.Utf8.encode_toList, String.toList_ofList]

section Reading

variable {files : Reader} {input stream : Input} {path document : String}

/-- What is read of a path is what its source leads to. -/
theorem readDocument_eq (hpath : '\x00' ∉ path.toList) : readDocument files input path =
    match source files input path with
    | .error fault => .error (.unreadable path fault)
    | .ok stream => decodeDocument stream := by
  rw [readDocument, source]
  split
  · rfl
  · rw [if_neg (by simpa using hpath)]
    cases files path <;> rfl

theorem readDocument_of_fault (hpath : '\x00' ∉ path.toList) {fault : PathFault}
    (h : source files input path = .error fault) :
    readDocument files input path = .error (.unreadable path fault) := by
  rw [readDocument_eq hpath, h]

theorem readDocument_of_source (hpath : '\x00' ∉ path.toList)
    (h : source files input path = .ok stream) :
    readDocument files input path = decodeDocument stream := by
  rw [readDocument_eq hpath, h]

/-- A stream that holds a text is read as the document that the text is. -/
theorem readDocument_of_text (hpath : '\x00' ∉ path.toList) {text : String}
    {breaks : Text.LineBreaks}
    (h : source files input path = .ok ⟨text.toUTF8.data.toList, breaks⟩) :
    readDocument files input path = .ok (documentOf breaks text) := by
  rw [readDocument_of_source hpath h, decodeDocument_toUTF8]

/-! ## Running a document -/

theorem run_of_failure {failure : Failure}
    (h : readDocument files input path = .error failure) (tree failOnError : Bool) :
    run files input (commandLine tree failOnError path) = ⟨"", some failure, []⟩ := by
  rw [run_commandLine, runDocumentAt, h]
  rfl

/-- A document that was read is evaluated, and all of its lines are written. -/
theorem exists_run_of_readDocument (h : readDocument files input path = .ok document) :
    ∃ entries, Entry.ofNodes (documentNodes document) = .ok entries ∧
      evaluateDocument document =
        .ok ⟨entries, (documentNodes document).flatMap compilationReports⟩ ∧
      ∀ tree failOnError, run files input (commandLine tree failOnError path) =
        finish tree failOnError path
          ⟨entries, (documentNodes document).flatMap compilationReports⟩ := by
  obtain ⟨entries, hentries⟩ := Entry.exists_ofNodes document
  have hevaluate := evaluateDocument_of_ofNodes hentries
  refine ⟨entries, hentries, hevaluate, fun tree failOnError => ?_⟩
  rw [run_commandLine, runDocumentAt, h]
  simp only [hevaluate]

end Reading

end LineArithmetic.Command
