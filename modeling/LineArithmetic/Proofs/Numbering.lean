import LineArithmetic.Proofs.Documents

/-!
# Lines and their numbers

The lines of a document are compiled independently of each other, and the only
thing that depends on the place of a line is the number in its diagnostic.

* `lineNode_add`: the same line further down gives the same tree, with the
  number of a diagnostic raised.
* `documentNodes_append`: so a document behind another one compiles to what it
  compiles to alone, with raised numbers.
* `line_of_lineNode`: a diagnostic carries the number of its line.
-/

namespace LineArithmetic

/-! ## One line under two numbers -/

/-- The same diagnostic about a line further down. -/
def Diagnostic.raise (d : Diagnostic) (lines : Int) : Diagnostic :=
  { d with line := d.line + lines }

/-- The same tree of a line further down. -/
def Node.raise (lines : Int) : Node → Node
  | .diagnostic d => .diagnostic (d.raise lines)
  | node => node

theorem Node.raise_tree (c : Chain) (lines : Int) : c.tree.raise lines = c.tree := by
  cases c <;> rfl

section Line

variable {line : String} {distance : Nat} {t : Token}

/-- The first misfit from the right decides the answer, whatever the number. -/
theorem lineNode_misfit (ht : (lineTokens (some line)).reverse[distance]? = some t)
    (hkind : t.kind ≠ expectedKind distance)
    (hfits : FitsBelow (lineTokens (some line)).reverse distance) (number : Int) :
    lineNode line number = Parser.misfitAnswer distance t number := by
  have hnode := result_compileLine line number
  have hnot := not_alternates_of_misfit ht hkind
  obtain ⟨hlt, -⟩ := List.getElem?_eq_some_iff.mp ht
  rcases compileLine_cases line number with
    ⟨hnil, -⟩ | ⟨c, hc, -⟩ | ⟨i, u, hu, hui, hi, h⟩ | ⟨-, -, hall, -⟩
  · simp [hnil] at hlt
  · exact absurd (hc ▸ c.alternates_tokens) hnot
  · obtain rfl := eq_of_first_misfits ht hkind hfits hu hui hi
    rw [ht] at hu
    rw [h, ← Option.some.inj hu] at hnode
    exact (Except.ok.inj hnode).symm
  · exact absurd (hall distance t hlt ht) hkind

/-- Without a misfit a line of evenly many tokens is incomplete, whatever the
number. -/
theorem lineNode_incomplete (hne : lineTokens (some line) ≠ [])
    (heven : (lineTokens (some line)).length % 2 = 0)
    (hfits : FitsBelow (lineTokens (some line)).reverse (lineTokens (some line)).reverse.length)
    (number : Int) : lineNode line number = Parser.incompleteAnswer number := by
  have hnode := result_compileLine line number
  rcases compileLine_cases line number with
    ⟨hnil, -⟩ | ⟨c, hc, -⟩ | ⟨i, u, hu, hui, -, -⟩ | ⟨-, -, -, h⟩
  · exact absurd hnil hne
  · have hodd := c.length_tokens_mod_two
    rw [hc] at hodd
    omega
  · obtain ⟨hlt, -⟩ := List.getElem?_eq_some_iff.mp hu
    exact absurd (hfits i u hlt hu) hui
  · rw [h] at hnode
    exact (Except.ok.inj hnode).symm

/-- A line further down compiles to the same, with the number of a diagnostic
raised. -/
theorem lineNode_add (line : String) (number lines : Int) :
    lineNode line (number + lines) = (lineNode line number).raise lines := by
  rcases compileLine_cases line number with
    ⟨hnil, -⟩ | ⟨c, hc, -⟩ | ⟨distance, t, ht, hkind, hfits, -⟩ | ⟨hne, heven, hfits, -⟩
  · rw [lineNode, lineNode, compileLine_blank line _ hnil, compileLine_blank line _ hnil]
    rfl
  · rw [lineNode, lineNode, compileLine_chain line _ hc.symm, compileLine_chain line _ hc.symm]
    exact (Node.raise_tree c lines).symm
  · rw [lineNode_misfit ht hkind hfits, lineNode_misfit ht hkind hfits]
    rfl
  · rw [lineNode_incomplete hne heven hfits, lineNode_incomplete hne heven hfits]
    rfl

/-- A diagnostic carries the number of its line. -/
theorem line_of_lineNode {number : Int} {d : Diagnostic}
    (h : lineNode line number = .diagnostic d) : d.line = number := by
  have hnode := result_compileLine line number
  rw [h] at hnode
  rcases compileLine_cases line number with
    ⟨-, hcase⟩ | ⟨c, -, hcase⟩ | ⟨distance, t, -, -, -, hcase⟩ | ⟨-, -, -, hcase⟩
  all_goals rw [hcase] at hnode
  · cases hnode
  · cases c <;> cases hnode
  · rw [← Node.diagnostic.inj (Except.ok.inj hnode)]
  · rw [← Node.diagnostic.inj (Except.ok.inj hnode)]

end Line

/-! ## Documents one behind the other -/

theorem numberedNodes_append (above below : List String) (first : Nat) :
    numberedNodes (above ++ below) first =
      numberedNodes above first ++ numberedNodes below (first + above.length) := by
  rw [numberedNodes, List.zipIdx_append, List.map_append]
  rfl

theorem numberedNodes_add (lines : List String) (first above : Nat) :
    numberedNodes lines (first + above) = (numberedNodes lines first).map (Node.raise above) := by
  unfold numberedNodes
  induction lines generalizing first with
  | nil => rfl
  | cons line lines ih =>
    have hnext : first + above + 1 = first + 1 + above := by omega
    simp only [List.zipIdx_cons, List.map_cons, hnext, ih, Nat.cast_add, lineNode_add]

/-- A document behind another one compiles to what it compiles to alone, with
the numbers of its diagnostics raised by the lines above it. -/
theorem documentNodes_append (a b : String) : documentNodes (a ++ "\n" ++ b) =
    documentNodes a ++ (documentNodes b).map (Node.raise (a.toList.count '\n' + 1 : Nat)) := by
  rw [documentNodes, Text.lines_append, numberedNodes_append, numberedNodes_add,
    Text.length_lines]
  rfl

/-- A document without line feeds is one line. -/
theorem documentNodes_eq_singleton {document : String} (h : '\n' ∉ document.toList) :
    documentNodes document = [lineNode document 1] := by
  rw [documentNodes, Text.lines_eq_singleton h]
  rfl

/-! ## Values -/

/-- Whether two values differ only by the line number in the message of a
diagnostic. -/
inductive Value.RaisedBy (lines : Int) : Value → Value → Prop where
  | void : RaisedBy lines .void .void
  | number (n : Number) : RaisedBy lines (.number n) (.number n)
  | message (d : Diagnostic) : RaisedBy lines (.text d.message) (.text (d.raise lines).message)

/-- The value of the same line further down. -/
theorem Node.OfLine.exists_eval_raise {node : Node} (h : node.OfLine) (lines : Int) :
    ∃ value raised, node.eval = .ok value ∧ (node.raise lines).eval = .ok raised ∧
      value.RaisedBy lines raised := by
  cases h with
  | void => exact ⟨.void, .void, rfl, rfl, .void⟩
  | tree c =>
    exact ⟨_, _, c.eval_tree, by rw [raise_tree, c.eval_tree], .number c.value⟩
  | diagnostic d => exact ⟨_, _, rfl, rfl, .message d⟩

theorem exists_evalAll_raise {nodes : List Node} (h : ∀ node ∈ nodes, node.OfLine)
    (lines : Int) : ∃ values raised, evalAll nodes = .ok values ∧
      evalAll (nodes.map (Node.raise lines)) = .ok raised ∧
      List.Forall₂ (Value.RaisedBy lines) values raised := by
  unfold evalAll
  simp only [mapM_eq_ok_iff]
  induction nodes with
  | nil => exact ⟨[], [], .nil, .nil, .nil⟩
  | cons node nodes ih =>
    simp only [List.mem_cons, forall_eq_or_imp] at h
    obtain ⟨value, raised, hvalue, hraised, hsame⟩ := h.1.exists_eval_raise lines
    obtain ⟨values, raiseds, hvalues, hraiseds, hsames⟩ := ih h.2
    exact ⟨value :: values, raised :: raiseds, .cons hvalue hvalues, .cons hraised hraiseds,
      .cons hsame hsames⟩

/-- The values of a document alone and behind other lines. -/
theorem exists_values (document : String) (lines : Int) : ∃ values raised,
    evalAll (documentNodes document) = .ok values ∧
      evalAll ((documentNodes document).map (Node.raise lines)) = .ok raised ∧
      List.Forall₂ (Value.RaisedBy lines) values raised :=
  exists_evalAll_raise (fun _ => ofLine_of_mem_documentNodes) lines

theorem evalAll_append {above below : List Node} {values values' : List Value}
    (h : evalAll above = .ok values) (h' : evalAll below = .ok values') :
    evalAll (above ++ below) = .ok (values ++ values') := by
  unfold evalAll at h h' ⊢
  rw [mapM_eq_ok_iff] at h h' ⊢
  exact List.rel_append h h'

/-! ## Entries -/

/-- A message ends with the line that it is about. -/
theorem Diagnostic.exists_message_eq (d : Diagnostic) :
    ∃ front, d.message = front ++ "' on line " ++ toString d.line :=
  ⟨_, rfl⟩

/-- An entry of type `ERROR` is about a diagnostic with its line number. -/
theorem Entry.exists_diagnostic {document : String} {entries : List Entry}
    (h : Entry.ofNodes (documentNodes document) = .ok entries) {i : Nat} {entry : Entry}
    (hentry : entries[i]? = some entry) (herror : entry.isError = true) :
    ∃ d : Diagnostic, d.line = entry.line ∧ entry.tree = d.message ∧
      entry.value = .text d.message := by
  obtain ⟨line, -, hof⟩ := exists_line_of_getElem? h hentry
  obtain ⟨d, hd⟩ := (isError_iff hof).mp herror
  obtain ⟨hline, -, htree, hvalue⟩ := ofNode_eq_ok_iff.mp hof
  rw [hd] at htree hvalue
  refine ⟨d, ?_, (Except.ok.inj htree).symm, (Except.ok.inj hvalue).symm⟩
  rw [hline, line_of_lineNode hd]

/-! ## Documents line by line -/

/-- Lines are compiled, evaluated and numbered independently of each other.

* A document without line feeds is one line with the number one.
* A document behind another one and a line feed compiles, and evaluates, to what
  it does alone, with the numbers of its diagnostics raised by the number of
  lines above it.
* So there is one tree for each line, in order and numbered from one.
* The entries are numbered in the same way, and the line of an entry of type
  `ERROR` is the line of its diagnostic. -/
theorem documents_line_by_line :
    (∀ line : String, '\n' ∉ line.toList → ∃ node,
      (compileLine line 1).result = .ok node ∧ compileDocument line = .ok (.ofNodes [node])) ∧
    (∀ a b : String, ∃ nodes nodes' values values' raised,
      compileDocument a = .ok (.ofNodes nodes) ∧ compileDocument b = .ok (.ofNodes nodes') ∧
      compileDocument (a ++ "\n" ++ b) = .ok (.ofNodes
        (nodes ++ nodes'.map (Node.raise (a.toList.count '\n' + 1 : Nat)))) ∧
      runDocument a = .ok values ∧ runDocument b = .ok values' ∧
      runDocument (a ++ "\n" ++ b) = .ok (values ++ raised) ∧
      List.Forall₂ (Value.RaisedBy (a.toList.count '\n' + 1 : Nat)) values' raised) ∧
    (∀ document : String, ∃ nodes, compileDocument document = .ok (.ofNodes nodes) ∧
      nodes.length = document.toList.count '\n' + 1 ∧
      ∀ (i : Nat) line, (Text.lines document)[i]? = some line →
        ∃ node, nodes[i]? = some node ∧ (compileLine line (i + 1)).result = .ok node) ∧
    ∀ document : String, ∃ evaluated, evaluateDocument document = .ok evaluated ∧
      evaluated.entries.length = document.toList.count '\n' + 1 ∧
      ∀ (i : Nat) entry, evaluated.entries[i]? = some entry → entry.line = i + 1 ∧
        (entry.isError = true → ∃ (d : Diagnostic) (front : String), d.line = entry.line ∧
          entry.tree = d.message ∧ entry.value = .text d.message ∧
          d.message = front ++ "' on line " ++ toString entry.line) := by
  refine ⟨fun line hline => ?_, fun a b => ?_, fun document => ?_, fun document => ?_⟩
  · refine ⟨lineNode line 1, result_compileLine line 1, ?_⟩
    rw [compileDocument_eq, documentNodes_eq_singleton hline]
  · obtain ⟨values, -, hvalues, -⟩ := exists_values a 0
    obtain ⟨values', raised, hvalues', hraised, hsame⟩ :=
      exists_values b (a.toList.count '\n' + 1 : Nat)
    refine ⟨documentNodes a, documentNodes b, values, values', raised, compileDocument_eq a,
      compileDocument_eq b, ?_, ?_, ?_, ?_, hsame⟩
    · rw [compileDocument_eq, documentNodes_append]
    · rw [runDocument_eq, hvalues]
    · rw [runDocument_eq, hvalues']
    · rw [runDocument_eq, documentNodes_append, evalAll_append hvalues hraised]
  · refine ⟨documentNodes document, compileDocument_eq document, length_documentNodes document,
      fun i line hline => ⟨lineNode line (i + 1), ?_, result_compileLine line (i + 1)⟩⟩
    rw [getElem?_documentNodes, hline, Option.map_some]
  · obtain ⟨entries, hentries⟩ := Entry.exists_ofNodes document
    refine ⟨⟨entries, (documentNodes document).flatMap compilationReports⟩, ?_, ?_, ?_⟩
    · rw [evaluateDocument_eq, hentries]
      rfl
    · rw [Entry.length_ofNodes hentries, length_documentNodes]
    · intro i entry hentry
      obtain ⟨node, -, hof⟩ := Entry.exists_of_getElem? hentries hentry
      refine ⟨(Entry.ofNode_eq_ok_iff.mp hof).1, fun herror => ?_⟩
      obtain ⟨d, hd, htree, hvalue⟩ := Entry.exists_diagnostic hentries hentry herror
      obtain ⟨front, hfront⟩ := d.exists_message_eq
      exact ⟨d, front, hd, htree, hvalue, by rw [hfront, hd]⟩

/-- The third line of a document is wrong in the same way as alone, and its entry
and its message say that it is the third one. -/
theorem third_line_wrong :
    compileDocument "2 2" = .ok (.ofNodes
        [.diagnostic ⟨.invalidToken, "an operation token", "2", 1⟩]) ∧
      (∃ nodes, compileDocument "7 *\n\n2 2" = .ok (.ofNodes nodes) ∧
        nodes[2]? = some (.diagnostic ⟨.invalidToken, "an operation token", "2", 3⟩)) ∧
      ∃ evaluated entry, evaluateDocument "7 *\n\n2 2" = .ok evaluated ∧
        evaluated.entries[2]? = some entry ∧ entry.isError = true ∧ entry.line = 3 ∧
        ∃ d : Diagnostic, d.line = 3 ∧ entry.value = .text d.message := by
  obtain ⟨hsingle, -, hnumbered, hentries⟩ := documents_line_by_line
  have hfirst : (compileLine "2 2" 1).result =
      .ok (.diagnostic ⟨.invalidToken, "an operation token", "2", 1⟩) := by decide +kernel
  have hthird : (compileLine "2 2" 3).result =
      .ok (.diagnostic ⟨.invalidToken, "an operation token", "2", 3⟩) := by decide +kernel
  refine ⟨?_, ?_, ?_⟩
  · obtain ⟨node, hnode, hdocument⟩ := hsingle "2 2" (by decide)
    rw [hfirst] at hnode
    rw [hdocument, ← Except.ok.inj hnode]
  · obtain ⟨nodes, hdocument, -, hall⟩ := hnumbered "7 *\n\n2 2"
    obtain ⟨node, hget, hnode⟩ := hall 2 "2 2" (by decide)
    have hnumber : (compileLine "2 2" ((2 : Nat) + 1)).result = _ := hthird
    rw [hnumber] at hnode
    exact ⟨nodes, hdocument, by rw [hget, ← Except.ok.inj hnode]⟩
  · obtain ⟨evaluated, hevaluated, -, hall⟩ := hentries "7 *\n\n2 2"
    have hknown : (evaluateDocument "7 *\n\n2 2").map (fun e => e.entries[2]?.map Entry.isError) =
        .ok (some true) := by decide +kernel
    rw [hevaluated] at hknown
    obtain ⟨entry, hentry, herror⟩ := Option.map_eq_some_iff.mp (Except.ok.inj hknown)
    obtain ⟨hline, hdiagnostic⟩ := hall 2 entry hentry
    obtain ⟨d, front, hd, -, hvalue, -⟩ := hdiagnostic herror
    exact ⟨evaluated, entry, hevaluated, hentry, herror, hline, d, hd.trans hline, hvalue⟩

end LineArithmetic
