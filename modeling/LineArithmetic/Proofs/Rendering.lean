import LineArithmetic.Proofs.Messages

/-!
# Renderings and their trees

The rendering of a tree is text between brackets, with the renderings of its operands
inside.  It says where it ends: the label of a kind and a literal hold no space, an
operator holds no comma, and behind the last operand there is nothing but the closing
bracket.  So whatever text follows, a rendering is read in one way only
(`OfGrammar.eq_of_render_append`); the induction is on the first of two trees, and the
text behind an operand is what the rest of the operation leaves.

`Node.OfGrammar` are the trees of any shape whose literals and operators are those of
lines.  A diagnostic is rendered as its message, which no tree is rendered as
(`bracket_ne_message`).
-/

namespace LineArithmetic

open Text

namespace Node

/-! ## Brackets -/

section Brackets

variable {kind kind' : Kind} {description description' : String} {rest rest' : List Char}

theorem toList_bracket_append (kind : Kind) (description : String) (rest : List Char) :
    (bracket kind description).toList ++ rest = "[ ".toList ++
      (kind.label.toList ++ ' ' :: (description.toList ++ ' ' :: ']' :: rest)) := by
  have hspace : " ".toList = [' '] := by decide
  have hclosing : " ]".toList = [' ', ']'] := by decide
  simp only [bracket, String.toList_append, hspace, hclosing, List.append_assoc,
    List.cons_append, List.nil_append]

theorem Kind.space_notMem_label (kind : Kind) : ' ' ∉ kind.label.toList := by
  cases kind <;> decide

/-- The kind can be read off a rendering, and the description starts behind it. -/
theorem eq_of_bracket_append
    (h : (bracket kind description).toList ++ rest = (bracket kind' description').toList ++ rest') :
    kind = kind' ∧
      description.toList ++ ' ' :: ']' :: rest = description'.toList ++ ' ' :: ']' :: rest' := by
  rw [toList_bracket_append, toList_bracket_append, List.append_cancel_left_eq] at h
  obtain ⟨hlabel, hbehind⟩ :=
    eq_of_append_cons kind.space_notMem_label kind'.space_notMem_label h
  exact ⟨Kind.label_injective (String.toList_inj.mp hlabel), hbehind⟩

/-- A bracket is followed by a space, and the bracket of a message by a letter. -/
theorem bracket_ne_message (kind : Kind) (description : String) (d : Diagnostic) :
    bracket kind description ≠ d.message := by
  intro h
  have hsecond := congrArg (fun text : String => text.toList[1]?) h
  obtain ⟨rest, hrest⟩ : ∃ rest, d.message.toList = Diagnostic.heading.toList ++ rest :=
    ⟨_, d.toList_message⟩
  have hbracket := toList_bracket_append kind description []
  rw [List.append_nil] at hbracket
  have hopening : "[ ".toList = ['[', ' '] := by decide
  have hheading : Diagnostic.heading.toList = '[' :: 'C' :: Diagnostic.heading.toList.drop 2 := by
    decide
  rw [hbracket, hrest, hopening, hheading] at hsecond
  exact absurd (Option.some.inj hsecond) (by decide)

end Brackets

/-! ## Trees of the grammar -/

/-- The trees of any shape whose literals and operators are those of lines. -/
inductive OfGrammar : Node → Prop where
  | void : OfGrammar .void
  | number {numeral : Numeral} (h : Token.isNumberLiteral numeral.literal.toList = true) :
      OfGrammar (.number numeral)
  | binary {op : String} {left right : Node} (hop : op ∈ Token.operators)
      (hleft : OfGrammar left) (hright : OfGrammar right) : OfGrammar (.binary op left right)

section Rendering

variable {a b : Node} {text text' : String} {rest rest' : List Char}

theorem render_binary_eq_ok_iff {op : String} {left right : Node} :
    (binary op left right).render = .ok text ↔ ∃ l r, left.render = .ok l ∧ right.render = .ok r ∧
      text = bracket .binary (op ++ ", " ++ l ++ ", " ++ r) := by
  rw [render]
  cases left.render with
  | error fault => simp
  | ok l =>
    cases right.render with
    | error fault => simp
    | ok r => simp [eq_comm]

theorem OfGrammar.exists_render (h : a.OfGrammar) : ∃ text, a.render = .ok text := by
  induction h with
  | void => exact ⟨_, rfl⟩
  | number h => exact ⟨_, rfl⟩
  | binary hop _ _ ihleft ihright =>
    obtain ⟨l, hl⟩ := ihleft
    obtain ⟨r, hr⟩ := ihright
    exact ⟨_, render_binary_eq_ok_iff.mpr ⟨l, r, hl, hr, rfl⟩⟩

/-- A tree of the grammar is rendered between the brackets of its kind. -/
theorem OfGrammar.exists_bracket (h : a.OfGrammar) (hrender : a.render = .ok text) :
    ∃ kind description, a.kind = .ok kind ∧ text = bracket kind description := by
  cases h with
  | void => exact ⟨_, _, rfl, (Except.ok.inj hrender).symm⟩
  | number h => exact ⟨_, _, rfl, (Except.ok.inj hrender).symm⟩
  | binary hop hleft hright =>
    obtain ⟨l, r, -, -, htext⟩ := render_binary_eq_ok_iff.mp hrender
    exact ⟨_, _, rfl, htext⟩

theorem OfGrammar.kind_eq_of_render_append (ha : a.OfGrammar) (hb : b.OfGrammar)
    (htext : a.render = .ok text) (htext' : b.render = .ok text')
    (h : text.toList ++ rest = text'.toList ++ rest') : a.kind = b.kind := by
  obtain ⟨kind, description, hkind, rfl⟩ := ha.exists_bracket htext
  obtain ⟨kind', description', hkind', rfl⟩ := hb.exists_bracket htext'
  rw [hkind, hkind', (eq_of_bracket_append h).1]

theorem space_notMem_literal {numeral : Numeral}
    (h : Token.isNumberLiteral numeral.literal.toList = true) :
    ' ' ∉ numeral.literal.toList := by
  intro hspace
  have hnumeric := (Literal.mk numeral.literal h).isNumeric_of_mem hspace
  exact absurd hnumeric (by decide)

theorem comma_notMem_operator {op : String} (h : op ∈ Token.operators) : ',' ∉ op.toList := by
  have hall : ∀ op ∈ Token.operators, ',' ∉ op.toList := by decide
  exact hall op h

/-- The description of an operation, with what follows each of its parts set apart. -/
theorem toList_operation_append (op l r : String) (rest : List Char) :
    (op ++ ", " ++ l ++ ", " ++ r).toList ++ rest =
      op.toList ++ ',' :: ' ' :: (l.toList ++ ',' :: ' ' :: (r.toList ++ rest)) := by
  have hcomma : ", ".toList = [',', ' '] := by decide
  simp only [String.toList_append, hcomma, List.append_assoc, List.cons_append, List.nil_append]

/-- A rendering is read in one way, whatever follows it. -/
theorem OfGrammar.eq_of_render_append (ha : a.OfGrammar) (hb : b.OfGrammar)
    (htext : a.render = .ok text) (htext' : b.render = .ok text')
    (h : text.toList ++ rest = text'.toList ++ rest') : a = b ∧ rest = rest' := by
  induction ha generalizing b text text' rest rest' with
  | void =>
    have hkind := OfGrammar.void.kind_eq_of_render_append hb htext htext' h
    cases hb with
    | void =>
      obtain rfl := Except.ok.inj (htext.symm.trans htext')
      exact ⟨rfl, List.append_cancel_left h⟩
    | number hliteral' => cases hkind
    | binary hop' hleft' hright' => cases hkind
  | number hliteral =>
    have hkind := (OfGrammar.number hliteral).kind_eq_of_render_append hb htext htext' h
    cases hb with
    | void => cases hkind
    | number hliteral' =>
      obtain rfl := Except.ok.inj htext
      obtain rfl := Except.ok.inj htext'
      obtain ⟨hsame, hbehind⟩ := eq_of_append_cons (space_notMem_literal hliteral)
        (space_notMem_literal hliteral') (eq_of_bracket_append h).2
      exact ⟨congrArg Node.number (Numeral.ext_literal (String.toList_inj.mp hsame)),
        (List.cons.inj hbehind).2⟩
    | binary hop' hleft' hright' => cases hkind
  | binary hop hleft hright ihleft ihright =>
    have hkind := (OfGrammar.binary hop hleft hright).kind_eq_of_render_append hb htext htext' h
    cases hb with
    | void => cases hkind
    | number hliteral' => cases hkind
    | binary hop' hleft' hright' =>
      obtain ⟨l, r, hl, hr, rfl⟩ := render_binary_eq_ok_iff.mp htext
      obtain ⟨l', r', hl', hr', rfl⟩ := render_binary_eq_ok_iff.mp htext'
      have hdescription := (eq_of_bracket_append h).2
      rw [toList_operation_append, toList_operation_append] at hdescription
      obtain ⟨hsame, hbehind⟩ := eq_of_append_cons (comma_notMem_operator hop)
        (comma_notMem_operator hop') hdescription
      obtain rfl := String.toList_inj.mp hsame
      -- What follows the left operand is the right one with all that follows it.
      obtain ⟨rfl, hbehind⟩ := ihleft hleft' hl hl' (List.cons.inj hbehind).2
      obtain ⟨rfl, hbehind⟩ := ihright hright' hr hr'
        (List.cons.inj (List.cons.inj hbehind).2).2
      exact ⟨rfl, (List.cons.inj (List.cons.inj hbehind).2).2⟩

/-- Trees of the grammar with the same rendering are the same. -/
theorem OfGrammar.eq_of_render_eq (ha : a.OfGrammar) (hb : b.OfGrammar)
    (htext : a.render = .ok text) (htext' : b.render = .ok text) : a = b := by
  have hsame : text.toList ++ [] = text.toList ++ [] := rfl
  exact (ha.eq_of_render_append hb htext htext' hsame).1

theorem OfGrammar.render_ne_message (h : a.OfGrammar) (htext : a.render = .ok text)
    (d : Diagnostic) : text ≠ d.message := by
  obtain ⟨kind, description, -, rfl⟩ := h.exists_bracket htext
  exact bracket_ne_message kind description d

end Rendering

/-- The tree of a chain is one of the grammar. -/
theorem ofGrammar_tree (c : Chain) : c.tree.OfGrammar := by
  induction c with
  | last n => exact .number n.isNumber
  | link n op rest ih =>
    have hop : op.symbol ∈ Token.operators := by cases op <;> decide
    exact .binary hop ih (.number n.isNumber)

end Node

/-! ## Trees of lines -/

section Lines

variable {line line' : String} {entry entry' : Entry}

/-- The texts of its tokens determine the tokens of a line. -/
theorem map_classify_lineTokens (line : Option String) :
    ((lineTokens line).map Token.text).map Token.classify = lineTokens line := by
  rw [List.map_map]
  refine (List.map_congr_left fun t ht => ?_).trans (List.map_id _)
  have hclass : t.kind = Token.kindOf t.text := isClassified_of_mem_lineTokens ht
  rw [Function.comp_apply, Token.classify, ← hclass]
  rfl

/-- Whether an entry is told about a line that compiles to an expression, in whatever
document and place. -/
def Entry.IsOfExpression (entry : Entry) (line : String) : Prop :=
  ∃ (document : String) (evaluated : Evaluated) (i : Nat) (node : Node),
    evaluateDocument document = .ok evaluated ∧ (Text.lines document)[i]? = some line ∧
      evaluated.entries[i]? = some entry ∧ (compileLine line (i + 1)).result = .ok node ∧
      node.IsExpression

/-- The tree that is told about an expression is that of the chain of its tokens. -/
theorem Entry.IsOfExpression.exists_chain (h : entry.IsOfExpression line) :
    ∃ c : Chain, c.tokens = lineTokens (some line) ∧ c.tree.render = .ok entry.tree := by
  obtain ⟨document, evaluated, i, node, hevaluate, hline, hentry, hresult, hnode⟩ := h
  obtain ⟨entries, hentries⟩ := Entry.exists_ofNodes document
  rw [evaluateDocument_of_ofNodes hentries] at hevaluate
  obtain rfl := Except.ok.inj hevaluate
  have hof := Entry.ofNode_of_getElem? hentries hline hentry
  obtain ⟨c, hc, rfl⟩ := exists_chain_of_isExpression hresult hnode
  rw [result_compileLine] at hresult
  rw [Except.ok.inj hresult] at hof
  exact ⟨c, hc, (Entry.ofNode_eq_ok_iff.mp hof).2.2.1⟩

/-- A line with the tokens of a chain has an entry about its expression, in any document
that has the line. -/
theorem Entry.exists_isOfExpression {document : String} {i : Nat} {c : Chain}
    (hline : (Text.lines document)[i]? = some line) (h : lineTokens (some line) = c.tokens) :
    ∃ entry : Entry, entry.IsOfExpression line := by
  obtain ⟨entries, hentries⟩ := Entry.exists_ofNodes document
  obtain ⟨entry, hentry, -⟩ := Entry.exists_of_line hentries hline
  have hresult : (compileLine line (i + 1)).result = .ok c.tree := by
    rw [compileLine_chain line _ h]
  exact ⟨entry, document, _, i, c.tree, evaluateDocument_of_ofNodes hentries, hline, hentry,
    hresult, c.isExpression_tree⟩

/-- The trees of two such entries are the same if and only if the lines have the same
words. -/
theorem Entry.IsOfExpression.tree_eq_iff (h : entry.IsOfExpression line)
    (h' : entry'.IsOfExpression line') : entry.tree = entry'.tree ↔
      (lineTokens (some line)).map Token.text = (lineTokens (some line')).map Token.text := by
  obtain ⟨c, hc, htree⟩ := h.exists_chain
  obtain ⟨c', hc', htree'⟩ := h'.exists_chain
  constructor
  · intro hsame
    rw [← hsame] at htree'
    have hnode : c.tree = c'.tree :=
      (Node.ofGrammar_tree c).eq_of_render_eq (Node.ofGrammar_tree c') htree htree'
    rw [← hc, ← hc', ← c.spelling_tree, ← c'.spelling_tree, hnode]
  · intro hsame
    have htokens : c.tokens = c'.tokens := by
      rw [hc, hc', ← map_classify_lineTokens, hsame, map_classify_lineTokens]
    rw [Chain.tokens_injective htokens] at htree
    exact Except.ok.inj (htree.symm.trans htree')

end Lines

/-- Renderings are read in one way.

Trees of any shape, put together from nothing, from literals and from the four
operators, are rendered, and two of them that are rendered as the same text are the same
tree.  No diagnostic is rendered as such a text.  So the entries of two lines that
compile to expressions tell the same tree exactly if the lines have the same words. -/
theorem rendering_uniquely_readable :
    (∀ a b : Node, a.OfGrammar → b.OfGrammar → ∃ text text', a.render = .ok text ∧
      b.render = .ok text' ∧ (text = text' → a = b) ∧
      ∀ d : Diagnostic, (Node.diagnostic d).render ≠ .ok text) ∧
    ∀ (entry entry' : Entry) (line line' : String), entry.IsOfExpression line →
      entry'.IsOfExpression line' →
      (entry.tree = entry'.tree ↔
        (lineTokens (some line)).map Token.text = (lineTokens (some line')).map Token.text) := by
  refine ⟨fun a b ha hb => ?_, fun entry entry' line line' h h' => h.tree_eq_iff h'⟩
  obtain ⟨text, htext⟩ := ha.exists_render
  obtain ⟨text', htext'⟩ := hb.exists_render
  refine ⟨text, text', htext, htext', ?_, fun d hd => ?_⟩
  · rintro rfl
    exact ha.eq_of_render_eq hb htext htext'
  · exact ha.render_ne_message htext d (Except.ok.inj hd).symm

/-- The literal of both numbers in the lines and trees that follow. -/
def sevenLiteral : Literal := ⟨"7", by decide⟩

/-- A difference whose second operand is a difference. -/
def rightNested : Node :=
  .binary "-" .void (.binary "-" (.number sevenLiteral.numeral) (.number sevenLiteral.numeral))

/-- The same parts, with a difference as first operand. -/
def leftNested : Node :=
  .binary "-" (.binary "-" .void (.number sevenLiteral.numeral)) (.number sevenLiteral.numeral)

/-- Nestings are told apart, and the blanks between words are not. -/
theorem rendering_nested :
    (∃ text text', rightNested.render = .ok text ∧ leftNested.render = .ok text' ∧ text ≠ text') ∧
    ∃ entry entry' : Entry, entry.IsOfExpression "7 - 7" ∧ entry'.IsOfExpression " 7 -\t7" ∧
      entry.tree = entry'.tree := by
  obtain ⟨hread, hlines⟩ := rendering_uniquely_readable
  have hseven : Node.OfGrammar (.number sevenLiteral.numeral) := .number sevenLiteral.isNumber
  have hminus : "-" ∈ Token.operators := by decide
  have hright : rightNested.OfGrammar := .binary hminus .void (.binary hminus hseven hseven)
  have hleft : leftNested.OfGrammar := .binary hminus (.binary hminus .void hseven) hseven
  obtain ⟨text, text', htext, htext', hsame, -⟩ := hread _ _ hright hleft
  refine ⟨⟨text, text', htext, htext', fun h => ?_⟩, ?_⟩
  · have hdiffer : rightNested ≠ leftNested := by decide
    exact hdiffer (hsame h)
  · have htokens : lineTokens (some "7 - 7") =
        (Chain.link sevenLiteral .minus (.last sevenLiteral)).tokens := by decide
    have htokens' : lineTokens (some " 7 -\t7") =
        (Chain.link sevenLiteral .minus (.last sevenLiteral)).tokens := by decide
    have hline : (Text.lines "7 - 7\n 7 -\t7")[0]? = some "7 - 7" := by decide
    have hline' : (Text.lines "7 - 7\n 7 -\t7")[1]? = some " 7 -\t7" := by decide
    obtain ⟨entry, hentry⟩ := Entry.exists_isOfExpression hline htokens
    obtain ⟨entry', hentry'⟩ := Entry.exists_isOfExpression hline' htokens'
    refine ⟨entry, entry', hentry, hentry', (hlines _ _ _ _ hentry hentry').mpr ?_⟩
    rw [htokens, htokens']

end LineArithmetic
