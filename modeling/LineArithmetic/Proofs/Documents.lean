import LineArithmetic.Proofs.Compilation
import LineArithmetic.Proofs.Evaluation
import Mathlib.Data.List.Forall2

/-!
# Compiling and evaluating a document

Compiling a line never fails and reports nothing, so a document compiles to the
trees of its lines, `documentNodes`, and what is reported are their diagnostics
(`compileDocument_eq`).

A line compiles to nothing, to the tree of a chain, or to a diagnostic, which
is what `Node.OfLine` says.  Each of these can be rendered and evaluated, so
every compiled line has an entry (`Entry.exists_ofNode`).  The entries of a document
are about its lines, one about each (`Entry.exists_line_of_getElem?`), and those of
type `ERROR` are about diagnostics (`Entry.isError_iff`).
-/

namespace LineArithmetic

/-! ## Traversals -/

section Traversals

variable {α β ε : Type} {f : α → Except ε β}

/-- A traversal succeeds exactly if each of its steps does. -/
theorem mapM_eq_ok_iff {xs : List α} {ys : List β} :
    xs.mapM f = .ok ys ↔ List.Forall₂ (fun x y => f x = .ok y) xs ys := by
  induction xs generalizing ys with
  | nil => cases ys <;> simp [pure, Except.pure]
  | cons x xs ih =>
    rw [List.mapM_cons]
    cases hx : f x with
    | error e => cases ys <;> simp [bind, Except.bind, hx]
    | ok y =>
      cases hxs : xs.mapM f with
      | error e => cases ys <;> simp [bind, Except.bind, hx, ← ih, hxs]
      | ok rest => cases ys <;> simp [bind, Except.bind, pure, Except.pure, hx, ← ih, hxs]

/-- A traversal of steps that succeed succeeds. -/
theorem exists_mapM_eq_ok {xs : List α} (h : ∀ x ∈ xs, ∃ y, f x = .ok y) :
    ∃ ys, xs.mapM f = .ok ys := by
  induction xs with
  | nil => exact ⟨[], rfl⟩
  | cons x xs ih =>
    obtain ⟨y, hy⟩ := h x List.mem_cons_self
    obtain ⟨ys, hys⟩ := ih fun z hz => h z (List.mem_cons_of_mem x hz)
    exact ⟨y :: ys, mapM_eq_ok_iff.mpr (.cons hy (mapM_eq_ok_iff.mp hys))⟩

/-- In a traversal that succeeds every step does. -/
theorem exists_eq_ok_of_mem {xs : List α} {ys : List β} (h : xs.mapM f = .ok ys) {x : α}
    (hx : x ∈ xs) : ∃ y, f x = .ok y := by
  have hall := mapM_eq_ok_iff.mp h
  obtain ⟨i, hi, rfl⟩ := List.mem_iff_get.mp hx
  exact ⟨_, hall.get i.isLt (hall.length_eq ▸ i.isLt)⟩

/-- A traversal that fails does so at the first step that fails, with the error of that
step. -/
theorem mapM_eq_error_iff {xs : List α} {e : ε} :
    xs.mapM f = .error e ↔ ∃ before x after, xs = before ++ x :: after ∧
      (∀ y ∈ before, ∃ z, f y = .ok z) ∧ f x = .error e := by
  constructor
  · intro h
    induction xs with
    | nil => cases h
    | cons x xs ih =>
      rw [List.mapM_cons] at h
      cases hx : f x with
      | error e' =>
        rw [hx] at h
        obtain rfl := Except.error.inj h
        exact ⟨[], x, xs, rfl, List.forall_mem_nil _, hx⟩
      | ok y =>
        have hrest : xs.mapM f = .error e := by
          rw [hx] at h
          cases hxs : xs.mapM f with
          | error e' => simpa [bind, Except.bind, hxs] using h
          | ok ys => simp [bind, Except.bind, pure, Except.pure, hxs] at h
        obtain ⟨before, z, after, rfl, hbefore, hz⟩ := ih hrest
        refine ⟨x :: before, z, after, rfl, ?_, hz⟩
        rw [List.forall_mem_cons]
        exact ⟨⟨y, hx⟩, hbefore⟩
  · rintro ⟨before, x, after, rfl, hbefore, hx⟩
    obtain ⟨ys, hys⟩ := exists_mapM_eq_ok hbefore
    simp [List.mapM_append, hys, hx, bind, Except.bind]

theorem mapM_eq_ok_map {g : α → β} (h : ∀ x, f x = .ok (g x)) (xs : List α) :
    xs.mapM f = .ok (xs.map g) := by
  rw [mapM_eq_ok_iff, List.forall₂_map_right_iff, List.forall₂_same]
  exact fun x _ => h x

end Traversals

/-! ## Trees of lines -/

section Line

variable (line : String) (number : Int)

/-- What a line compiles to. -/
def lineNode : Node :=
  match (compileLine line number).result with
  | .ok node => node
  | .error _ => .void

theorem result_compileLine : (compileLine line number).result = .ok (lineNode line number) := by
  obtain ⟨node, hresult⟩ := exists_compileLine_eq line number
  rw [lineNode, hresult]

/-- Compiling a line reports nothing. -/
theorem records_compileLine : (compileLine line number).records = [] := by
  rw [compileLine, Parser.parse]
  split
  · rfl
  · exact Parser.records_run _ (List.forall_mem_nil _)

end Line

namespace Node

/-- The trees that lines compile to. -/
inductive OfLine : Node → Prop where
  | void : OfLine .void
  | tree (c : Chain) : OfLine c.tree
  | diagnostic (d : Diagnostic) : OfLine (.diagnostic d)

variable {node : Node}

theorem ofLine_lineNode (line : String) (number : Int) : OfLine (lineNode line number) := by
  have hnode := result_compileLine line number
  rcases compileLine_cases line number with
    ⟨-, h⟩ | ⟨c, -, h⟩ | ⟨distance, t, -, -, -, h⟩ | ⟨-, -, -, h⟩
  all_goals
    rw [h] at hnode
    rw [← Except.ok.inj hnode]
  · exact .void
  · exact .tree c
  · exact .diagnostic _
  · exact .diagnostic _

theorem OfLine.exists_kind (h : node.OfLine) : ∃ kind, node.kind = .ok kind := by
  cases h with
  | void => exact ⟨.void, rfl⟩
  | tree c => cases c <;> exact ⟨_, rfl⟩
  | diagnostic d => exact ⟨.error, rfl⟩

theorem exists_render_tree (c : Chain) : ∃ text, c.tree.render = .ok text := by
  induction c with
  | last n => exact ⟨_, rfl⟩
  | link n op rest ih =>
    obtain ⟨text, htext⟩ := ih
    rw [Chain.tree, render, htext]
    exact ⟨_, rfl⟩

theorem OfLine.exists_render (h : node.OfLine) : ∃ text, node.render = .ok text := by
  cases h with
  | void => exact ⟨_, rfl⟩
  | tree c => exact exists_render_tree c
  | diagnostic d => exact ⟨_, rfl⟩

theorem OfLine.exists_eval (h : node.OfLine) : ∃ value, node.eval = .ok value := by
  cases h with
  | void => exact ⟨.void, rfl⟩
  | tree c => exact ⟨_, c.eval_tree⟩
  | diagnostic d => exact ⟨_, rfl⟩

end Node

/-! ## Compiling -/

/-- What lines compile to, and what is reported about them. -/
def Compilation.ofNodes (nodes : List Node) : Compilation :=
  ⟨nodes, nodes.flatMap compilationReports⟩

/-- The trees of numbered lines. -/
def numberedNodes (lines : List String) (first : Nat) : List Node :=
  (lines.zipIdx first).map fun line => lineNode line.1 line.2

/-- The trees of the lines of a document. -/
def documentNodes (document : String) : List Node :=
  numberedNodes (Text.lines document) 1

theorem compileNumbered_eq (line : String × Nat) : compileNumbered line =
    .ok (lineNode line.1 line.2, compilationReports (lineNode line.1 line.2)) := by
  simp only [compileNumbered, result_compileLine, records_compileLine, Except.map,
    List.nil_append]

/-- A document compiles to the trees of its lines. -/
theorem compileDocument_eq (document : String) :
    compileDocument document = .ok (.ofNodes (documentNodes document)) := by
  rw [compileDocument, mapM_eq_ok_map compileNumbered_eq]
  simp only [Except.map, List.map_map, Function.comp_def, List.flatMap_map, Compilation.ofNodes,
    documentNodes, numberedNodes]

theorem length_documentNodes (document : String) :
    (documentNodes document).length = document.toList.count '\n' + 1 := by
  rw [documentNodes, numberedNodes, List.length_map, List.length_zipIdx, Text.length_lines]

/-- Line by line, a document compiles to what its lines compile to. -/
theorem getElem?_documentNodes (document : String) (i : Nat) :
    (documentNodes document)[i]? =
      (Text.lines document)[i]?.map fun line => lineNode line (i + 1) := by
  rw [documentNodes, numberedNodes, List.getElem?_map, List.getElem?_zipIdx, Option.map_map]
  simp only [Function.comp_def, Nat.cast_add, Nat.cast_one, add_comm]

theorem ofLine_of_mem_documentNodes {document : String} {node : Node}
    (h : node ∈ documentNodes document) : node.OfLine := by
  obtain ⟨line, -, rfl⟩ := List.mem_map.mp h
  exact Node.ofLine_lineNode _ _

/-! ## Evaluating -/

theorem runDocument_eq (document : String) :
    runDocument document = evalAll (documentNodes document) := by
  rw [runDocument, compileDocument_eq]
  rfl

theorem evaluateDocument_eq (document : String) : evaluateDocument document =
    (Entry.ofNodes (documentNodes document)).map fun entries =>
      ⟨entries, (documentNodes document).flatMap compilationReports⟩ := by
  rw [evaluateDocument, compileDocument_eq]
  rfl

/-- A document is evaluated to its entries, with the reports of its compilation. -/
theorem evaluateDocument_of_ofNodes {document : String} {entries : List Entry}
    (h : Entry.ofNodes (documentNodes document) = .ok entries) : evaluateDocument document =
      .ok ⟨entries, (documentNodes document).flatMap compilationReports⟩ := by
  rw [evaluateDocument_eq, h]
  rfl

/-- What the entry of a compiled line tells. -/
theorem Entry.ofNode_eq_ok_iff {line : Int} {node : Node} {entry : Entry} :
    Entry.ofNode line node = .ok entry ↔ entry.line = line ∧
      node.kind.map Node.Kind.label = .ok entry.type ∧ node.render = .ok entry.tree ∧
      node.eval = .ok entry.value := by
  obtain ⟨line', type, tree, value⟩ := entry
  unfold Entry.ofNode
  cases node.kind with
  | error fault => simp [Except.map]
  | ok kind =>
    cases node.render with
    | error fault => simp
    | ok text =>
      cases node.eval with
      | error fault => simp
      | ok result => simp [Except.map, eq_comm]

/-- Every compiled line has an entry. -/
theorem Entry.exists_ofNode {node : Node} (h : node.OfLine) (line : Int) :
    ∃ entry, Entry.ofNode line node = .ok entry := by
  obtain ⟨kind, hkind⟩ := h.exists_kind
  obtain ⟨text, htext⟩ := h.exists_render
  obtain ⟨value, hvalue⟩ := h.exists_eval
  refine ⟨⟨line, kind.label, text, value⟩, Entry.ofNode_eq_ok_iff.mpr ⟨rfl, ?_, htext, hvalue⟩⟩
  rw [hkind]
  rfl

/-- The compiled lines of a document have entries. -/
theorem Entry.exists_ofNodes (document : String) :
    ∃ entries, Entry.ofNodes (documentNodes document) = .ok entries :=
  exists_mapM_eq_ok fun numbered hmem => by
    have hnode : numbered.1 ∈ documentNodes document := List.fst_mem_of_mem_zipIdx hmem
    exact Entry.exists_ofNode (ofLine_of_mem_documentNodes hnode) _

/-- Entries are those of the nodes at their places, and numbered by them. -/
theorem Entry.exists_of_getElem? {nodes : List Node} {entries : List Entry}
    (h : Entry.ofNodes nodes = .ok entries) {i : Nat} {entry : Entry}
    (hentry : entries[i]? = some entry) :
    ∃ node, nodes[i]? = some node ∧ Entry.ofNode (i + 1) node = .ok entry := by
  have hall := mapM_eq_ok_iff.mp h
  obtain ⟨hlt, rfl⟩ := List.getElem?_eq_some_iff.mp hentry
  have hzip : i < (nodes.zipIdx 1).length := hall.length_eq ▸ hlt
  have hnodes : i < nodes.length := by rwa [List.length_zipIdx] at hzip
  have hstep := hall.get hzip hlt
  simp only [List.get_eq_getElem, List.getElem_zipIdx] at hstep
  refine ⟨nodes[i], List.getElem?_eq_getElem hnodes, ?_⟩
  rwa [Nat.add_comm, Nat.cast_succ] at hstep

theorem Entry.length_ofNodes {nodes : List Node} {entries : List Entry}
    (h : Entry.ofNodes nodes = .ok entries) : entries.length = nodes.length := by
  have hlength := (mapM_eq_ok_iff.mp h).length_eq
  rw [← hlength, List.length_zipIdx]

/-! ## Entries of a document -/

theorem Node.kind_eq_error_iff {node : Node} :
    node.kind = .ok .error ↔ ∃ d, node = .diagnostic d := by
  cases node <;> simp [Node.kind]

theorem Node.Kind.label_injective : Function.Injective Node.Kind.label := by
  intro k k'
  cases k <;> cases k' <;> decide

/-- The entries of type `ERROR` are those of diagnostics. -/
theorem Entry.isError_iff {line : Int} {node : Node} {entry : Entry}
    (h : Entry.ofNode line node = .ok entry) :
    entry.isError = true ↔ ∃ d, node = .diagnostic d := by
  obtain ⟨-, htype, -, -⟩ := Entry.ofNode_eq_ok_iff.mp h
  cases hkind : node.kind with
  | error fault =>
    rw [hkind] at htype
    cases htype
  | ok kind =>
    rw [hkind] at htype
    rw [← Node.kind_eq_error_iff, hkind, Entry.isError, ← Except.ok.inj htype, beq_iff_eq,
      Node.Kind.label_injective.eq_iff, Except.ok.injEq]

/-- The entry of a line tells of what the line compiles to. -/
theorem Entry.exists_line_of_getElem? {document : String} {entries : List Entry}
    (h : Entry.ofNodes (documentNodes document) = .ok entries)
    {i : Nat} {entry : Entry} (hentry : entries[i]? = some entry) :
    ∃ line, (Text.lines document)[i]? = some line ∧
      Entry.ofNode (i + 1) (lineNode line (i + 1)) = .ok entry := by
  obtain ⟨node, hnode, hof⟩ := Entry.exists_of_getElem? h hentry
  rw [getElem?_documentNodes] at hnode
  obtain ⟨line, hline, rfl⟩ := Option.map_eq_some_iff.mp hnode
  exact ⟨line, hline, hof⟩

theorem Entry.exists_line_of_mem {document : String} {entries : List Entry}
    (h : Entry.ofNodes (documentNodes document) = .ok entries) {entry : Entry}
    (hmem : entry ∈ entries) :
    ∃ (line : String) (number : Int), Entry.ofNode number (lineNode line number) = .ok entry := by
  obtain ⟨i, hentry⟩ := List.getElem?_of_mem hmem
  obtain ⟨line, -, hof⟩ := Entry.exists_line_of_getElem? h hentry
  exact ⟨line, i + 1, hof⟩

/-- A line and an entry in the same place belong together. -/
theorem Entry.ofNode_of_getElem? {document line : String} {entries : List Entry}
    (h : Entry.ofNodes (documentNodes document) = .ok entries) {i : Nat} {entry : Entry}
    (hline : (Text.lines document)[i]? = some line) (hentry : entries[i]? = some entry) :
    Entry.ofNode (i + 1) (lineNode line (i + 1)) = .ok entry := by
  obtain ⟨line', hline', hof⟩ := Entry.exists_line_of_getElem? h hentry
  obtain rfl := Option.some.inj (hline.symm.trans hline')
  exact hof

theorem Entry.length_eq_of_document {document : String} {entries : List Entry}
    (h : Entry.ofNodes (documentNodes document) = .ok entries) :
    entries.length = (Text.lines document).length := by
  rw [Entry.length_ofNodes h, length_documentNodes, Text.length_lines]

/-- Every line of a document has its entry. -/
theorem Entry.exists_of_line {document : String} {entries : List Entry}
    (h : Entry.ofNodes (documentNodes document) = .ok entries) {i : Nat} {line : String}
    (hline : (Text.lines document)[i]? = some line) :
    ∃ entry, entries[i]? = some entry ∧
      Entry.ofNode (i + 1) (lineNode line (i + 1)) = .ok entry := by
  have hi : i < entries.length := by
    rw [Entry.length_eq_of_document h]
    exact (List.getElem?_eq_some_iff.mp hline).1
  have hentry := List.getElem?_eq_getElem hi
  exact ⟨entries[i], hentry, Entry.ofNode_of_getElem? h hline hentry⟩

end LineArithmetic
