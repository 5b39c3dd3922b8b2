import LineArithmetic.Proofs.Runs
import LineArithmetic.Proofs.Words

/-!
# The output of a run

A run writes one line for each line of the document.  What it writes about an
entry is put together from fixed texts, from numbers and from the texts of
tokens, which hold no blanks; so it is a line (`IsLine`): not empty and without
line breaks.  A line feed behind each of them frames the entries, and cutting the
output at its line feeds gives them back.
-/

namespace LineArithmetic

open Text

/-! ## Lines -/

/-- A text that takes exactly one line when it is written. -/
structure IsLine (text : String) : Prop where
  ne_empty : text ≠ ""
  unbroken : Unbroken text

section Lines

variable {a b : String}

theorem IsLine.append (ha : IsLine a) (hb : Unbroken b) : IsLine (a ++ b) := by
  refine ⟨fun h => ha.ne_empty ?_, ha.unbroken.append hb⟩
  exact (String.append_eq_empty_iff.mp h).1

/-- What is written of a line is the line and a line feed. -/
theorem Command.outputLine_of_unbroken (h : Unbroken a) : Command.outputLine a = a ++ "\n" := by
  rw [Command.outputLine, if_neg]
  rw [String.endsWith_eq_endsWith_toSlice, String.Slice.endsWith_string_iff, String.copy_toSlice]
  intro hsuffix
  exact h.newline_notMem (hsuffix.subset (by decide))

/-- A word takes one line: line breaks are blanks. -/
theorem IsWord.isLine (h : IsWord a) : IsLine a := by
  refine ⟨h.ne_empty, fun c hc => Bool.eq_false_iff.mpr fun hbreak => ?_⟩
  have hblank := h.isBlank_eq c hc
  rw [isBlank_of_isLineBreak hbreak] at hblank
  cases hblank

end Lines

/-! ## Trees and messages -/

/-- A diagnostic about a text without line breaks is a line. -/
theorem Diagnostic.isLine_message {d : Diagnostic} (hexpected : Unbroken d.expected)
    (htoken : Unbroken d.token) : IsLine d.message := by
  have hheading : IsLine heading := ⟨by decide, by decide⟩
  have hsummary : Unbroken d.kind.summary := by cases d.kind <;> decide
  unfold message
  exact ((((((hheading.append hsummary).append (by decide)).append hexpected).append
    (by decide)).append htoken).append (by decide)).append (isWord_toString d.line).isLine.unbroken

namespace Node

theorem isLine_bracket (kind : Kind) {description : String} (h : Unbroken description) :
    IsLine (bracket kind description) := by
  have hopening : IsLine "[ " := ⟨by decide, by decide⟩
  have hlabel : Unbroken kind.label := by cases kind <;> decide
  exact (((hopening.append hlabel).append (by decide)).append h).append (by decide)

theorem unbroken_literal (n : Literal) : Unbroken n.text :=
  fun _ hc => (n.isNumeric_of_mem hc).isLineBreak_eq

/-- A tree whose rendering and whose value are lines. -/
def IsPrintable (node : Node) : Prop :=
  (∃ tree, node.render = .ok tree ∧ IsLine tree) ∧
    ∃ value, node.eval = .ok value ∧ IsLine value.format

theorem isPrintable_void : IsPrintable .void :=
  ⟨⟨_, rfl, isLine_bracket .void (by decide)⟩, .void, rfl, ⟨by decide, by decide⟩⟩

theorem isLine_render_tree (c : Chain) : ∃ text, c.tree.render = .ok text ∧ IsLine text := by
  induction c with
  | last n => exact ⟨_, rfl, isLine_bracket .number (unbroken_literal n)⟩
  | link n op rest ih =>
    obtain ⟨text, htext, hline⟩ := ih
    have hsymbol : Unbroken op.symbol := by cases op <;> decide
    have hnumber := isLine_bracket .number (unbroken_literal n)
    refine ⟨bracket .binary
      (op.symbol ++ ", " ++ text ++ ", " ++ bracket .number n.text), ?_, isLine_bracket _ ?_⟩
    · rw [Chain.tree, render, htext]
      rfl
    · exact (((hsymbol.append (by decide)).append hline.unbroken).append (by decide)).append
        hnumber.unbroken

theorem isPrintable_tree (c : Chain) : IsPrintable c.tree :=
  ⟨isLine_render_tree c, _, c.eval_tree, c.value.isWord_format.isLine⟩

theorem isPrintable_diagnostic {d : Diagnostic} (hexpected : Unbroken d.expected)
    (htoken : Unbroken d.token) : IsPrintable (.diagnostic d) :=
  ⟨⟨_, rfl, d.isLine_message hexpected htoken⟩, _, rfl, d.isLine_message hexpected htoken⟩

/-- Whatever a line holds, what it compiles to is written as a line: its message
shows a token, and tokens hold no blanks. -/
theorem isPrintable_lineNode (line : String) (number : Int) :
    IsPrintable (lineNode line number) := by
  have hnode := result_compileLine line number
  rcases compileLine_cases line number with
    ⟨-, h⟩ | ⟨c, -, h⟩ | ⟨distance, t, ht, -, -, h⟩ | ⟨-, -, -, h⟩
  all_goals
    rw [h] at hnode
    rw [← Except.ok.inj hnode]
  · exact isPrintable_void
  · exact isPrintable_tree c
  · have hmem : t ∈ lineTokens (some line) := List.mem_reverse.mp (List.mem_of_getElem? ht)
    refine isPrintable_diagnostic ?_ (isWord_of_mem_lineTokens hmem).isLine.unbroken
    show Unbroken (if distance % 2 = 0 then _ else _)
    split <;> decide
  · have hexpected : Unbroken "a number literal" := by decide
    have htoken : Unbroken "" := by decide
    exact isPrintable_diagnostic hexpected htoken

end Node

/-! ## Framing -/

namespace Command

/-- What is written about the entry of a line is a line. -/
theorem isLine_entryText {line : String} {number number' : Int} {entry : Entry}
    (h : Entry.ofNode number' (lineNode line number) = .ok entry) (tree : Bool) :
    IsLine (entryText tree entry) := by
  obtain ⟨-, -, htree, hvalue⟩ := Entry.ofNode_eq_ok_iff.mp h
  obtain ⟨⟨text, htext, hline⟩, value, hresult, hformat⟩ :=
    Node.isPrintable_lineNode line number
  cases tree with
  | true =>
    rw [htext] at htree
    rw [entryText, if_pos rfl, ← Except.ok.inj htree]
    exact hline
  | false =>
    rw [hresult] at hvalue
    rw [entryText, if_neg nofun, ← Except.ok.inj hvalue]
    exact hformat

variable {document : String} {entries : List Entry}

theorem isLine_of_mem_entries (h : Entry.ofNodes (documentNodes document) = .ok entries)
    {entry : Entry} (hmem : entry ∈ entries) (tree : Bool) : IsLine (entryText tree entry) := by
  obtain ⟨line, number, hof⟩ := Entry.exists_line_of_mem h hmem
  exact isLine_entryText hof tree

/-- What is written of a document is the texts of its entries, each with a line
feed behind it. -/
theorem outputOf_eq (h : Entry.ofNodes (documentNodes document) = .ok entries) (tree : Bool) :
    outputOf tree entries =
      String.join ((entries.map (entryText tree)).map fun text => text ++ "\n") := by
  rw [outputOf, List.map_map]
  refine congrArg String.join (List.map_congr_left fun entry hmem => ?_)
  exact outputLine_of_unbroken (isLine_of_mem_entries h hmem tree).unbroken

/-- The lines of the output are the texts of the entries. -/
theorem lines_outputOf (h : Entry.ofNodes (documentNodes document) = .ok entries) (tree : Bool) :
    Text.lines (outputOf tree entries) = entries.map (entryText tree) ++ [""] := by
  rw [outputOf_eq h]
  refine lines_join fun text htext => ?_
  obtain ⟨entry, hmem, rfl⟩ := List.mem_map.mp htext
  exact (isLine_of_mem_entries h hmem tree).unbroken.newline_notMem

/-- Whether its line breaks are kept or unified, a document has the same trees. -/
theorem documentNodes_documentOf (hreturn : ReturnsEndLines document.toList)
    (breaks : LineBreaks) : documentNodes (documentOf breaks document) = documentNodes document := by
  cases breaks with
  | kept => rfl
  | unified => exact documentNodes_unifyLineBreaks hreturn

/-- The output of a run frames the entries of the document.

The document is what was put into the file or sent to standard input; its
carriage returns, if it has any, stand in front of line feeds.  Then the command
writes for each entry of this document, in order, the text of its value or its
tree, and one line feed behind it.  These texts are not empty and hold no line
breaks, so they are the lines of the output; and whether the line breaks of the
document are kept or unified, it has the same entries. -/
theorem output_frames_entries (document : String)
    (hreturn : ∀ i : Nat, document.toList[i]? = some '\r' → document.toList[i + 1]? = some '\n')
    (files : Reader) (input : Input) (path : String) (hpath : '\x00' ∉ path.toList)
    (breaks : LineBreaks)
    (hsource : source files input path = .ok ⟨document.toUTF8.data.toList, breaks⟩)
    (tree failOnError : Bool) : ∃ evaluated texts, evaluateDocument document = .ok evaluated ∧
      texts = (evaluated.entries.map fun entry =>
        if tree then entry.tree else entry.value.format) ∧
      (run files input (commandLine tree failOnError path)).output =
        String.join (texts.map fun text => text ++ "\n") ∧
      (∀ text ∈ texts, text ≠ "" ∧ ∀ c ∈ text.toList, isLineBreak c = false) ∧
      Text.lines (run files input (commandLine tree failOnError path)).output = texts ++ [""] ∧
      ∀ breaks, evaluateDocument (documentOf breaks document) = .ok evaluated := by
  obtain ⟨entries, hentries, hevaluate, hrun⟩ :=
    exists_run_of_readDocument (readDocument_of_text hpath hsource)
  have hsame : ∀ breaks, evaluateDocument (documentOf breaks document) =
      evaluateDocument document := by
    intro breaks
    rw [evaluateDocument_eq, evaluateDocument_eq, documentNodes_documentOf hreturn]
  have hlines : ∀ text ∈ entries.map (entryText tree), IsLine text := by
    intro text htext
    obtain ⟨entry, hmem, rfl⟩ := List.mem_map.mp htext
    exact isLine_of_mem_entries hentries hmem tree
  have houtput : (run files input (commandLine tree failOnError path)).output =
      String.join ((entries.map (entryText tree)).map fun text => text ++ "\n") := by
    rw [hrun, ← outputOf_eq hentries]
    rfl
  have hdocument := (hsame breaks).symm.trans hevaluate
  refine ⟨_, entries.map (entryText tree), hdocument, rfl, houtput, ?_, ?_,
    fun breaks => (hsame breaks).trans hdocument⟩
  · exact fun text htext => ⟨(hlines text htext).ne_empty, (hlines text htext).unbroken⟩
  · rw [houtput]
    exact lines_join fun text htext => (hlines text htext).unbroken.newline_notMem

/-- Three lines from standard input, with line breaks of two kinds.  The stream may keep
them or unify them. -/
theorem output_three_lines :
    (∀ breaks, Text.lines (run (Folder.mk []).read
        ⟨"2 / 1\r\n\n2 2".toUTF8.data.toList, breaks⟩ (commandLine false true "-")).output =
      ["0.5", "null", "[COMPILATION ERROR]: Invalid token provided => " ++
        "expected an operation token, got '2' on line 3", ""]) ∧
      ∃ evaluated, evaluateDocument "2 / 1\r\n\n2 2" = .ok evaluated ∧
        evaluateDocument "2 / 1\n\n2 2" = .ok evaluated := by
  have hreturn : ∀ i : Nat, "2 / 1\r\n\n2 2".toList[i]? = some '\r' →
      "2 / 1\r\n\n2 2".toList[i + 1]? = some '\n' := by
    intro i hi
    have hall : ∀ i < 11, "2 / 1\r\n\n2 2".toList[i]? = some '\r' →
        "2 / 1\r\n\n2 2".toList[i + 1]? = some '\n' := by decide
    exact hall i (List.getElem?_eq_some_iff.mp hi).1 hi
  have hframes := fun breaks =>
    output_frames_entries "2 / 1\r\n\n2 2" hreturn (Folder.mk []).read
      ⟨"2 / 1\r\n\n2 2".toUTF8.data.toList, breaks⟩ "-" (by decide) breaks rfl false true
  have hknown : (evaluateDocument "2 / 1\r\n\n2 2").map
        (fun e => e.entries.map fun entry => entry.value.format) =
      .ok ["0.5", "null", "[COMPILATION ERROR]: Invalid token provided => " ++
        "expected an operation token, got '2' on line 3"] := by
    decide +kernel
  constructor
  · intro breaks
    obtain ⟨evaluated, texts, hevaluated, htexts, -, -, hlines, -⟩ := hframes breaks
    rw [hevaluated] at hknown
    rw [hlines, htexts]
    simp only [Bool.false_eq_true, if_false, Except.ok.inj hknown]
    rfl
  · obtain ⟨evaluated, -, hevaluated, -, -, -, -, hsame⟩ := hframes .unified
    have hdocument : documentOf .unified "2 / 1\r\n\n2 2" = "2 / 1\n\n2 2" := by decide
    have hunified := hsame .unified
    rw [hdocument] at hunified
    exact ⟨evaluated, hevaluated, hunified⟩

end Command

end LineArithmetic
