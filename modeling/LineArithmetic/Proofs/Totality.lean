import LineArithmetic.Proofs.CheckedEvaluation
import LineArithmetic.Proofs.Documents

/-!
# No document fails

Whatever a document holds, it is compiled, evaluated and told about to its end.
The reasons lie in different places:

* The words that are classed as numbers are read as numbers, and those that are
  classed as operators are operators (`Token.isUsable_of_mem_lineTokens`).
* A line compiles to nothing, to a tree of numbers and operations, or to a
  diagnostic, never to something foreign (`Node.ofLine_lineNode`).
* What has a rendering is a diagnostic or has a description
  (`Node.describe_of_render`).
* The partial steps of an evaluation are never taken where they give nothing
  (`Node.checkedEval_eq`).
-/

namespace LineArithmetic

/-! ## Tokens -/

/-- Whether a token can be used as what it is classed as: a number is read, and
held as its numeral says, and an operator computes for all operands. -/
structure Token.IsUsable (t : Token) : Prop where
  number : t.kind = .number → ∃ numeral, Node.ofLiteral t.text = .ok (.number numeral) ∧
    Number.checkedOfLiteral t.text = .ok numeral.value
  operator : t.kind = .operator → ∃ f : Binary64 → Binary64 → Binary64,
    checkedOperation t.text = .ok fun x y => .ok (f x y)

theorem Token.isUsable_of_mem_lineTokens {line : Option String} {t : Token}
    (h : t ∈ lineTokens line) : t.IsUsable where
  number hkind := by
    obtain ⟨n, rfl⟩ := (isClassified_of_mem_lineTokens h).exists_literal hkind
    exact ⟨n.numeral, n.ofLiteral_text, Number.checkedOfLiteral_eq n.ofLiteral?_text⟩
  operator hkind := by
    obtain ⟨op, rfl⟩ := (isClassified_of_mem_lineTokens h).exists_operator hkind
    exact ⟨op.apply, checkedOperation_of_some op.operation?_symbol⟩

/-! ## Trees -/

namespace Node

variable {node : Node}

/-- The rendering of what is no diagnostic is its kind and its description
between brackets. -/
theorem describe_of_render {text : String} (h : node.render = .ok text) :
    (∃ d, node = .diagnostic d) ∨ ∃ kind description, node.kind = .ok kind ∧
      node.describe = .ok description ∧ text = bracket kind description := by
  cases node with
  | void => exact .inr ⟨.void, "VOID", rfl, rfl, (Except.ok.inj h).symm⟩
  | number numeral => exact .inr ⟨.number, numeral.literal, rfl, rfl, (Except.ok.inj h).symm⟩
  | binary op left right =>
    right
    rw [render] at h
    rw [describe]
    cases hleft : left.render with
    | error fault =>
      rw [hleft] at h
      cases h
    | ok l =>
      cases hright : right.render with
      | error fault =>
        rw [hleft, hright] at h
        cases h
      | ok r =>
        rw [hleft, hright] at h
        exact ⟨.binary, _, rfl, rfl, (Except.ok.inj h).symm⟩
  | diagnostic d => exact .inl ⟨d, rfl⟩
  | foreign leaf => cases h

/-- A tree that has a value has it step by step. -/
theorem checkedEval_of_eval {v : Value} (h : node.eval = .ok v) : node.checkedEval = .ok v := by
  rw [checkedEval_eq, h]
  rfl

end Node

/-! ## Documents -/

/-- Whether an entry tells the kind, the rendering and the value of a tree, each
of which is there. -/
structure Entry.Tells (entry : Entry) (node : Node) : Prop where
  kind : node.kind.map Node.Kind.label = .ok entry.type
  tree : node.render = .ok entry.tree
  value : node.checkedEval = .ok entry.value
  description : (∃ d, node = .diagnostic d) ∨ ∃ kind text, node.kind = .ok kind ∧
    node.describe = .ok text ∧ entry.tree = Node.bracket kind text

theorem Entry.tells_of_ofNode {line : Int} {node : Node} {entry : Entry}
    (h : Entry.ofNode line node = .ok entry) : entry.Tells node := by
  obtain ⟨-, hkind, htree, hvalue⟩ := Entry.ofNode_eq_ok_iff.mp h
  exact ⟨hkind, htree, Node.checkedEval_of_eval hvalue, Node.describe_of_render htree⟩

/-- The entries tell about the trees at their places. -/
theorem Entry.forall₂_tells {nodes : List Node} {entries : List Entry}
    (h : Entry.ofNodes nodes = .ok entries) :
    List.Forall₂ (fun node entry => entry.Tells node) nodes entries := by
  have hzip : List.Forall₂ (fun node entry => Entry.Tells entry node)
      ((nodes.zipIdx 1).map Prod.fst) entries :=
    List.forall₂_map_left_iff.mpr ((mapM_eq_ok_iff.mp h).imp fun _ _ => Entry.tells_of_ofNode)
  rwa [List.zipIdx_map_fst] at hzip

/-- The lines of a document have values, which are found step by step. -/
theorem exists_evalAll (document : String) :
    ∃ values, evalAll (documentNodes document) = .ok values ∧
      List.Forall₂ (fun node value => node.checkedEval = .ok value)
        (documentNodes document) values := by
  obtain ⟨values, hvalues⟩ : ∃ values, evalAll (documentNodes document) = .ok values :=
    exists_mapM_eq_ok fun node hnode => (ofLine_of_mem_documentNodes hnode).exists_eval
  refine ⟨values, hvalues, (mapM_eq_ok_iff.mp hvalues).imp fun node value => ?_⟩
  exact Node.checkedEval_of_eval

/-- Every document is compiled, evaluated and told about, one tree, one value and
one entry for each line.  Its tokens can be used as what they are classed as,
every value is found with the partial steps, and every rendering is there. -/
theorem document_never_fails (document : String) :
    ∃ (nodes : List Node) (values : List Value) (entries : List Entry),
      compileDocument document = .ok (.ofNodes nodes) ∧
      runDocument document = .ok values ∧
      evaluateDocument document = .ok ⟨entries, nodes.flatMap compilationReports⟩ ∧
      nodes.length = (Text.lines document).length ∧
      (∀ line ∈ Text.lines document, ∀ t ∈ lineTokens (some line), t.IsUsable) ∧
      List.Forall₂ (fun node value => node.checkedEval = .ok value) nodes values ∧
      List.Forall₂ (fun node entry => entry.Tells node) nodes entries := by
  obtain ⟨values, hvalues, hsteps⟩ := exists_evalAll document
  obtain ⟨entries, hentries⟩ := Entry.exists_ofNodes document
  refine ⟨documentNodes document, values, entries, compileDocument_eq document, ?_, ?_, ?_,
    fun line _ t => Token.isUsable_of_mem_lineTokens, hsteps, Entry.forall₂_tells hentries⟩
  · rw [runDocument_eq, hvalues]
  · rw [evaluateDocument_eq, hentries]
    rfl
  · rw [length_documentNodes, Text.length_lines]

end LineArithmetic
