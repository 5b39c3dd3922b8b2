import LineArithmetic.Proofs.LineBreaks

/-!
# Type, tree and value of an entry agree

The three parts of an entry are computed by three functions: the type by the kind of
the tree, the text of the tree by its rendering, and the value by evaluating it.
`Entry.Fits` says for each type what the other two parts and the line are like.

* `Entry.exists_fits`: the entry of every line fits one type, by the four answers about
  a line.
* `Entry.Fits.unique`: it fits no other one, since types have different labels.
* `Entry.Fits.number_of_jsonSafe`: of all entries, only those of numbers that are not
  finite have one of the three words for them as value when JSON holds it; a diagnostic
  starts otherwise.

`entries_agree` puts these together for the entries of a document.
-/

namespace LineArithmetic

open Text

/-- What an entry and its line are like if the tree of the line is of a kind. -/
def Entry.Fits (entry : Entry) (line : String) : Node.Kind → Prop
  | .void => entry.type = "VOID" ∧ entry.value = .void ∧ entry.tree = "[ VOID VOID ]" ∧
      ∀ c ∈ line.toList, isBlank c = true
  | .number => entry.type = "NUMBER" ∧ (∃ n, entry.value = .number n) ∧
      ∃ text, entry.tree = "[ NUMBER " ++ text ++ " ]" ∧
        lineTokens (some line) = [⟨.number, text⟩]
  | .binary => entry.type = "BINARY_EXPRESSION" ∧ (∃ n, entry.value = .number n) ∧
      (lineTokens (some line)).length % 2 = 1 ∧ 3 ≤ (lineTokens (some line)).length
  | .error => entry.type = "ERROR" ∧ entry.value = .text entry.tree ∧
      ∃ rest, entry.tree = "[COMPILATION ERROR]: " ++ rest

/-! ## Every entry fits one kind -/

section Fits

variable {entry : Entry} {line : String} {number number' : Int}

/-- A line without tokens consists of blanks. -/
theorem lineTokens_eq_nil_iff :
    lineTokens (some line) = [] ↔ ∀ c ∈ line.toList, isBlank c = true := by
  rw [lineTokens_eq, List.map_eq_nil_iff, words_eq_nil_iff]

theorem Diagnostic.exists_message_eq_heading (d : Diagnostic) :
    ∃ rest, d.message = "[COMPILATION ERROR]: " ++ rest := by
  unfold message
  simp only [String.append_assoc]
  exact ⟨_, rfl⟩

/-- The type of an entry is the label of the kind that it fits. -/
theorem Entry.Fits.type_eq {kind : Node.Kind} (h : entry.Fits line kind) :
    entry.type = kind.label := by
  cases kind <;> exact h.1

theorem Entry.Fits.unique {kind kind' : Node.Kind} (h : entry.Fits line kind)
    (h' : entry.Fits line kind') : kind' = kind :=
  Node.Kind.label_injective (h'.type_eq.symm.trans h.type_eq)

/-- An entry of nothing is that of a blank line. -/
theorem Entry.fits_void (h : ofNode number .void = .ok entry)
    (htokens : lineTokens (some line) = []) : entry.Fits line .void := by
  obtain ⟨-, htype, htree, hvalue⟩ := ofNode_eq_ok_iff.mp h
  exact ⟨(Except.ok.inj htype).symm, (Except.ok.inj hvalue).symm, (Except.ok.inj htree).symm,
    lineTokens_eq_nil_iff.mp htokens⟩

/-- An entry of the tree of a chain is that of a number or of an operation. -/
theorem Entry.fits_tree {c : Chain} (h : ofNode number c.tree = .ok entry)
    (htokens : c.tokens = lineTokens (some line)) :
    entry.Fits line .number ∨ entry.Fits line .binary := by
  obtain ⟨-, htype, htree, hvalue⟩ := ofNode_eq_ok_iff.mp h
  rw [c.eval_tree] at hvalue
  have hnumber : ∃ n, entry.value = .number n := ⟨c.value, (Except.ok.inj hvalue).symm⟩
  cases c with
  | last n =>
    left
    exact ⟨(Except.ok.inj htype).symm, hnumber, n.text, (Except.ok.inj htree).symm, htokens.symm⟩
  | link n op rest =>
    right
    have hodd := (Chain.link n op rest).length_tokens_mod_two
    have hlength : (Chain.link n op rest).tokens.length = rest.tokens.length + 2 := rfl
    rw [htokens] at hodd hlength
    have hrest := rest.length_tokens_mod_two
    exact ⟨(Except.ok.inj htype).symm, hnumber, hodd, by omega⟩

/-- An entry of a diagnostic has its message as tree and as value. -/
theorem Entry.fits_diagnostic {d : Diagnostic} (h : ofNode number (.diagnostic d) = .ok entry)
    (line : String) : entry.Fits line .error := by
  obtain ⟨-, htype, htree, hvalue⟩ := ofNode_eq_ok_iff.mp h
  have htext : d.message = entry.tree := Except.ok.inj htree
  refine ⟨(Except.ok.inj htype).symm, ?_, ?_⟩
  · rw [← htext]
    exact (Except.ok.inj hvalue).symm
  · rw [← htext]
    exact d.exists_message_eq_heading

/-- The entry of a line fits a kind, whatever the line holds. -/
theorem Entry.exists_fits (h : ofNode number' (lineNode line number) = .ok entry) :
    ∃ kind, entry.Fits line kind := by
  have hnode := result_compileLine line number
  rcases compileLine_cases line number with
    ⟨htokens, hcase⟩ | ⟨c, htokens, hcase⟩ | ⟨distance, t, -, -, -, hcase⟩ | ⟨-, -, -, hcase⟩
  all_goals
    rw [hcase] at hnode
    rw [← Except.ok.inj hnode] at h
  · exact ⟨.void, fits_void h htokens⟩
  · rcases fits_tree h htokens with hnumber | hbinary
    · exact ⟨.number, hnumber⟩
    · exact ⟨.binary, hbinary⟩
  · exact ⟨.error, fits_diagnostic h line⟩
  · exact ⟨.error, fits_diagnostic h line⟩

end Fits

/-! ## Words for numbers -/

/-- The words for numbers that are not finite. -/
def nonFiniteWords : List String := ["Infinity", "-Infinity", "NaN"]

/-- What starts like a diagnostic is no word for a number. -/
theorem heading_append_notMem (rest : String) :
    "[COMPILATION ERROR]: " ++ rest ∉ nonFiniteWords := by
  intro h
  have hfirst : ∀ word ∈ nonFiniteWords, word.toList.head? ≠ some '[' := by decide
  refine hfirst _ h ?_
  rw [String.toList_append]
  rfl

/-- A value is changed for JSON only if it is a number that is not finite. -/
theorem Value.eq_or_nonFinite_of_jsonSafe {v : Value} {text : String}
    (h : v.jsonSafe = .text text) :
    v = .text text ∨ ∃ n, v = .number n ∧ n.isNonFinite = true := by
  cases v with
  | void => cases h
  | truth b => cases h
  | text s => exact Or.inl h
  | number n =>
    right
    refine ⟨n, rfl, ?_⟩
    by_contra hfinite
    rw [jsonSafe, if_neg hfinite] at h
    cases h

/-- The value of an entry, by the kind that the entry fits. -/
theorem Entry.Fits.value_cases {entry : Entry} {line : String} {kind : Node.Kind}
    (h : entry.Fits line kind) :
    entry.value = .void ∨
      ((kind = .number ∨ kind = .binary) ∧ ∃ n, entry.value = .number n) ∨
      ∃ rest, entry.value = .text ("[COMPILATION ERROR]: " ++ rest) := by
  cases kind with
  | void => exact Or.inl h.2.1
  | number => exact Or.inr (Or.inl ⟨Or.inl rfl, h.2.1⟩)
  | binary => exact Or.inr (Or.inl ⟨Or.inr rfl, h.2.1⟩)
  | error =>
    obtain ⟨-, hvalue, rest, hrest⟩ := h
    exact Or.inr (Or.inr ⟨rest, hrest ▸ hvalue⟩)

/-- An entry that has one of the words as value for JSON is that of a number which is
not finite. -/
theorem Entry.Fits.number_of_jsonSafe {entry : Entry} {line : String} {kind : Node.Kind}
    (h : entry.Fits line kind) {word : String} (hword : word ∈ nonFiniteWords)
    (hvalue : entry.jsonSafe.value = .text word) :
    (kind = .number ∨ kind = .binary) ∧
      ∃ n, entry.value = .number n ∧ n.isNonFinite = true := by
  have hsafe : entry.value.jsonSafe = .text word := hvalue
  rcases h.value_cases with hvoid | ⟨hkind, m, hm⟩ | ⟨rest, hrest⟩
  · rw [hvoid] at hsafe
    cases hsafe
  · rcases Value.eq_or_nonFinite_of_jsonSafe hsafe with htext | hnonFinite
    · rw [hm] at htext
      cases htext
    · exact ⟨hkind, hnonFinite⟩
  · rw [hrest] at hsafe
    rw [← Value.text.inj hsafe] at hword
    exact absurd hword (heading_append_notMem rest)

/-- No diagnostic has one of the words as its message. -/
theorem Diagnostic.message_notMem (d : Diagnostic) : d.message ∉ nonFiniteWords := by
  obtain ⟨rest, hrest⟩ := d.exists_message_eq_heading
  rw [hrest]
  exact heading_append_notMem rest

/-! ## Entries of a document -/

/-- Type, tree and value of an entry agree with each other and with the line.

Every document is evaluated, and every line has an entry, which fits exactly one of the
four kinds.  If JSON holds the value of an entry as one of the words for numbers that are
not finite, the entry is that of an expression whose value is such a number; no
diagnostic has one of the words as its message. -/
theorem entries_agree (document : String) :
    ∃ evaluated, evaluateDocument document = .ok evaluated ∧
      evaluated.entries.length = (Text.lines document).length ∧
      (∀ (i : Nat) (line : String) (entry : Entry), (Text.lines document)[i]? = some line →
        evaluated.entries[i]? = some entry →
          (∃! kind, entry.Fits line kind) ∧
          ∀ word ∈ nonFiniteWords, entry.jsonSafe.value = .text word →
            (entry.type = "NUMBER" ∨ entry.type = "BINARY_EXPRESSION") ∧
              ∃ n, entry.value = .number n ∧ n.isNonFinite = true) ∧
      ∀ d : Diagnostic, d.message ∉ nonFiniteWords := by
  obtain ⟨entries, hentries⟩ := Entry.exists_ofNodes document
  refine ⟨⟨entries, (documentNodes document).flatMap compilationReports⟩, ?_,
    Entry.length_eq_of_document hentries, ?_, Diagnostic.message_notMem⟩
  · rw [evaluateDocument_eq, hentries]
    rfl
  · intro i line entry hline hentry
    obtain ⟨line', hline', hof⟩ := Entry.exists_line_of_getElem? hentries hentry
    obtain rfl := Option.some.inj (hline.symm.trans hline')
    obtain ⟨kind, hfits⟩ := Entry.exists_fits hof
    refine ⟨⟨kind, hfits, fun kind' => hfits.unique⟩, fun word hword hvalue => ?_⟩
    obtain ⟨hkind, hnumber⟩ := hfits.number_of_jsonSafe hword hvalue
    refine ⟨?_, hnumber⟩
    rw [hfits.type_eq]
    exact hkind.imp (congrArg Node.Kind.label) (congrArg Node.Kind.label)

/-- A document with a line of each kind. -/
theorem agree_four_lines : ∃ evaluated, evaluateDocument " \n0 / 1\n2\nx" = .ok evaluated ∧
    evaluated.entries.map Entry.type = ["VOID", "BINARY_EXPRESSION", "NUMBER", "ERROR"] ∧
    ∃ entry, evaluated.entries[1]? = some entry ∧ entry.jsonSafe.value = .text "Infinity" ∧
      (∃! kind, entry.Fits "0 / 1" kind) ∧
      ∃ n, entry.value = .number n ∧ n.isNonFinite = true := by
  obtain ⟨evaluated, hevaluate, hlength, hagree, -⟩ := entries_agree " \n0 / 1\n2\nx"
  have htypes : (evaluateDocument " \n0 / 1\n2\nx").map
      (fun evaluated => evaluated.entries.map Entry.type) =
        .ok ["VOID", "BINARY_EXPRESSION", "NUMBER", "ERROR"] := by decide +kernel
  have hsecond : (evaluateDocument " \n0 / 1\n2\nx").map
      (fun evaluated => evaluated.entries[1]?.map fun entry => entry.jsonSafe.value) =
        .ok (some (.text "Infinity")) := by decide +kernel
  rw [hevaluate] at htypes hsecond
  obtain ⟨entry, hentry, hvalue⟩ := Option.map_eq_some_iff.mp (Except.ok.inj hsecond)
  obtain ⟨hkind, hwords⟩ := hagree 1 "0 / 1" entry (by decide) hentry
  exact ⟨evaluated, hevaluate, Except.ok.inj htypes, entry, hentry, hvalue, hkind,
    (hwords "Infinity" (by decide) hvalue).2⟩

end LineArithmetic
