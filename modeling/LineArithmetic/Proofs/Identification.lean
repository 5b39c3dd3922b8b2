import LineArithmetic.Proofs.Agreement
import LineArithmetic.Proofs.Answer
import LineArithmetic.Proofs.Words

/-!
# Outputs and the values that they tell

A value is written as a line of output and as JSON, and neither text says what kind of
value it tells.  It can be read off all the same.

* `Value.ofTold?` takes JSON back to the value that it tells.  The words for numbers
  that are not finite are messages of no diagnostic, so this goes back from every value
  of a line (`Value.ToldBy.ofTold?_eq`).
* A line of output is the JSON of its value, without quotes if that is a string
  (`Value.ToldBy.format_eq`).
* What is told in quotes is not written like what is told without them
  (`Value.IsOfLine.written`): a message holds a blank, and JSON spells nothing by the
  three words.

So a text determines what is told by it, and that determines the value
(`outputs_identify_values`).
-/

namespace LineArithmetic

open Text

/-- A string in JSON without its quotes, and the text of anything else. -/
def Http.unquoted : Json → String
  | .string points => ofCodePoints points
  | json => json.print .compact

namespace Value

variable {v w : Value} {text : String} {json json' : Json}

/-! ## Values of lines -/

/-- The values that lines evaluate to, whatever their numbers are. -/
def IsOfLine (v : Value) : Prop :=
  ∃ (line : String) (number : Int) (node : Node),
    (compileLine line number).result = .ok node ∧ node.eval = .ok v

theorem isOfLine_of_compileLine (line : String) (number : Int)
    (h : (compileLine line number).result.map Node.eval = .ok (.ok v)) : v.IsOfLine := by
  refine ⟨line, number, lineNode line number, result_compileLine line number, ?_⟩
  rw [result_compileLine] at h
  exact Except.ok.inj h

theorem IsOfLine.exists_ofLine (h : v.IsOfLine) : ∃ node : Node, node.OfLine ∧ node.eval = .ok v := by
  obtain ⟨line, number, node, hresult, heval⟩ := h
  rw [result_compileLine] at hresult
  exact ⟨_, Node.ofLine_lineNode line number, Except.ok.inj hresult ▸ heval⟩

theorem IsOfLine.toldBy (h : v.IsOfLine) : v.ToldBy (Http.valueJson v.jsonSafe) := by
  obtain ⟨node, hof, heval⟩ := h.exists_ofLine
  exact Http.toldBy_valueJson hof heval

theorem IsOfLine.isSmall (h : v.IsOfLine) : v.IsSmall := by
  obtain ⟨node, -, heval⟩ := h.exists_ofLine
  exact Node.isSmall_of_eval heval

/-- The only texts among the values of lines are messages. -/
theorem IsOfLine.exists_message (h : (Value.text text).IsOfLine) :
    ∃ d : Diagnostic, text = d.message := by
  obtain ⟨node, hof, heval⟩ := h.exists_ofLine
  cases hof with
  | void => cases heval
  | tree c =>
    rw [c.eval_tree] at heval
    cases heval
  | diagnostic d => exact ⟨d, (Value.text.inj (Except.ok.inj heval)).symm⟩

/-! ## From JSON back to values -/

/-- The value that a string of a result tells: a number that is not finite, or a message. -/
def ofWord (text : String) : Value :=
  if text = "Infinity" then .number (.float (.infinite false))
  else if text = "-Infinity" then .number (.float (.infinite true))
  else if text = "NaN" then .number (.float .nan)
  else .text text

/-- The value that JSON tells, if it can be that of a line. -/
def ofTold? : Json → Option Value
  | .null => some .void
  | .int n => some (.number (.int n))
  | .float x => some (.number (.float x))
  | .string points => some (ofWord (ofCodePoints points))
  | _ => none

theorem ofWord_of_notMem (h : text ∉ nonFiniteWords) : ofWord text = .text text := by
  simp only [nonFiniteWords, List.mem_cons, not_or] at h
  rw [ofWord, if_neg h.1, if_neg h.2.1, if_neg h.2.2.1]

/-- What tells a value leads back to it, unless it is a text that tells a number. -/
theorem ToldBy.ofTold?_eq (h : v.ToldBy json) (htext : ∀ text ∈ nonFiniteWords, v ≠ .text text) :
    ofTold? json = some v := by
  cases h with
  | void | int n | finite negative rank => rfl
  | infinity | minusInfinity | nan => decide
  | message text =>
    have hword : text ∉ nonFiniteWords := fun hmem => htext text hmem rfl
    rw [Json.ofText, ofTold?, ofCodePoints_codePoints, ofWord_of_notMem hword]

/-- A value is written as what tells it, without quotes. -/
theorem ToldBy.format_eq (h : v.ToldBy json) : v.format = Http.unquoted json := by
  cases h with
  | void | int n | finite negative rank =>
    simp only [Http.unquoted, Json.print, Json.textAt]
    rfl
  | infinity | minusInfinity | nan => decide
  | message text => exact (ofCodePoints_codePoints text).symm

/-- What tells a value is no list, so it does not matter how lists are laid out. -/
theorem ToldBy.print_eq (h : v.ToldBy json) (layout : Json.Layout) :
    json.print layout = json.print .compact := by
  cases h <;> simp only [Json.ofText, Json.print, Json.textAt]

/-! ## Texts -/

/-- How a text tells what JSON it stands for: it stands in quotes and is one of the words
or a message, or it is a word that spells the JSON by itself. -/
inductive Written (text : String) : Json → Prop where
  | quoted (h : text ∈ nonFiniteWords ∨ ∃ d : Diagnostic, text = d.message) :
      Written text (.ofText text)
  | spelled {json : Json} (hword : IsWord text) (hspelled : Json.Spells json text.toList)
      (hreadable : Json.Readable 0 (.value json)) : Written text json

theorem IsOfLine.spells (h : v.IsOfLine) :
    Json.Spells (Http.valueJson v.jsonSafe) ((Http.valueJson v.jsonSafe).print .compact).toList :=
  Json.spells_print (Http.writable_told h.toldBy)

theorem IsOfLine.readable (h : v.IsOfLine) :
    Json.Readable 0 (.value (Http.valueJson v.jsonSafe)) :=
  Http.readable_told h.toldBy h.isSmall 0

/-- The output of a line is written as its JSON needs it. -/
theorem IsOfLine.written (h : v.IsOfLine) : Written v.format (Http.valueJson v.jsonSafe) := by
  have hspells := h.spells
  have hreadable := h.readable
  have htold := h.toldBy
  generalize Http.valueJson v.jsonSafe = told at *
  have hformat := htold.format_eq
  -- Without quotes, the output is the JSON itself.
  have hunquoted (hprint : v.format = told.print .compact) (hword : IsWord v.format) :
      Written v.format told :=
    .spelled hword (hprint ▸ hspells) hreadable
  cases htold with
  | void => exact hunquoted hformat (by decide)
  | int n => exact hunquoted hformat (Number.isWord_format _)
  | finite negative rank => exact hunquoted hformat (Number.isWord_format _)
  | infinity | minusInfinity | nan => exact .quoted (Or.inl (by decide))
  | message text => exact .quoted (Or.inr h.exists_message)

/-- None of the words is JSON. -/
theorem not_spells_of_mem_nonFiniteWords (h : text ∈ nonFiniteWords)
    (hreadable : Json.Readable 0 (.value json)) : ¬ Json.Spells json text.toList := by
  intro hspelled
  have hfault : ∀ word ∈ nonFiniteWords, (Json.read 0 word.toList).toOption.isNone = true := by
    decide +kernel
  have hread := hfault text h
  rw [Json.read_of_spells hspelled hreadable] at hread
  cases hread

/-- A message is no word, since its heading holds a blank. -/
theorem not_isWord_message (d : Diagnostic) : ¬ IsWord d.message := by
  intro h
  obtain ⟨rest, hrest⟩ := d.exists_message_eq_heading
  have hmem : ' ' ∈ d.message.toList := by
    rw [hrest, String.toList_append]
    exact List.mem_append_left _ (by decide)
  exact absurd (h.isBlank_eq ' ' hmem) (by decide)

/-- What stands in quotes does not spell JSON by itself. -/
theorem not_spelled_of_quoted (h : text ∈ nonFiniteWords ∨ ∃ d : Diagnostic, text = d.message)
    (hword : IsWord text) (hreadable : Json.Readable 0 (.value json)) :
    ¬ Json.Spells json text.toList := by
  rcases h with hmem | ⟨d, rfl⟩
  · exact not_spells_of_mem_nonFiniteWords hmem hreadable
  · exact absurd hword (not_isWord_message d)

/-- A text stands for one JSON. -/
theorem Written.unique (h : Written text json) (h' : Written text json') : json = json' := by
  cases h with
  | quoted hquoted =>
    cases h' with
    | quoted hquoted' => rfl
    | spelled hword' hspelled' hreadable' =>
      exact absurd hspelled' (not_spelled_of_quoted hquoted hword' hreadable')
  | spelled hword hspelled hreadable =>
    cases h' with
    | quoted hquoted' => exact absurd hspelled (not_spelled_of_quoted hquoted' hword hreadable)
    | spelled hword' hspelled' hreadable' => exact hspelled.unique hspelled' hreadable hreadable'

/-! ## Values from their texts -/

/-- The JSON of a line tells its value. -/
theorem IsOfLine.ofTold?_eq (h : v.IsOfLine) : ofTold? (Http.valueJson v.jsonSafe) = some v := by
  refine h.toldBy.ofTold?_eq fun text hmem htext => ?_
  obtain ⟨d, hd⟩ := IsOfLine.exists_message (htext ▸ h)
  exact d.message_notMem (hd ▸ hmem)

theorem IsOfLine.eq_of_valueJson_eq (hv : v.IsOfLine) (hw : w.IsOfLine)
    (h : Http.valueJson v.jsonSafe = Http.valueJson w.jsonSafe) : v = w := by
  have htold := hv.ofTold?_eq
  rw [h, hw.ofTold?_eq] at htold
  exact (Option.some.inj htold).symm

end Value

/-- Outputs identify values.

If two values of lines are written as the same line of output, or as the same JSON, then
they are the same value: the same number of the same kind, or the same message.  It does
not matter how the JSON is laid out, nor by whom it is written, as long as it spells the
value.  There is one value for what is not a number. -/
theorem outputs_identify_values {v w : Value} (hv : v.IsOfLine) (hw : w.IsOfLine) :
    (v.format = w.format → v = w) ∧
    (∀ layout layout' : Json.Layout, (Http.valueJson v.jsonSafe).print layout =
      (Http.valueJson w.jsonSafe).print layout' → v = w) ∧
    ∀ text : List Char, Json.Spells (Http.valueJson v.jsonSafe) text →
      Json.Spells (Http.valueJson w.jsonSafe) text → v = w := by
  refine ⟨fun h => ?_, fun layout layout' h => ?_, fun text hspelled hspelled' => ?_⟩
  · have hwritten := hv.written
    rw [h] at hwritten
    exact hv.eq_of_valueJson_eq hw (hwritten.unique hw.written)
  · rw [hv.toldBy.print_eq, hw.toldBy.print_eq] at h
    have hspelled := hv.spells
    rw [h] at hspelled
    exact hv.eq_of_valueJson_eq hw (hspelled.unique hw.spells hv.readable hw.readable)
  · exact hv.eq_of_valueJson_eq hw (hspelled.unique hspelled' hv.readable hw.readable)

/-- The three zeros that lines evaluate to are told apart, as output and as JSON. -/
theorem zeros_told_apart : ∃ u v w : Value, u.IsOfLine ∧ v.IsOfLine ∧ w.IsOfLine ∧
    u = .number (.int 0) ∧ v = .number (.float (.zero false)) ∧
    w = .number (.float (.zero true)) ∧ u.format ≠ v.format ∧ v.format ≠ w.format ∧
    (Http.valueJson u.jsonSafe).print .compact ≠ (Http.valueJson v.jsonSafe).print .compact ∧
    (Http.valueJson v.jsonSafe).print .compact ≠ (Http.valueJson w.jsonSafe).print .compact := by
  have hu : Value.IsOfLine (.number (.int 0)) :=
    Value.isOfLine_of_compileLine "0" 1 (by decide +kernel)
  have hv : Value.IsOfLine (.number (.float (.zero false))) :=
    Value.isOfLine_of_compileLine "0.0" 1 (by decide +kernel)
  have hw : Value.IsOfLine (.number (.float (.zero true))) :=
    Value.isOfLine_of_compileLine "0.0 * 1 - 0" 1 (by decide +kernel)
  have huv : Value.number (.int 0) ≠ .number (.float (.zero false)) := by decide
  have hvw : Value.number (.float (.zero false)) ≠ .number (.float (.zero true)) := by decide
  obtain ⟨hformat, hprint, -⟩ := outputs_identify_values hu hv
  obtain ⟨hformat', hprint', -⟩ := outputs_identify_values hv hw
  exact ⟨_, _, _, hu, hv, hw, rfl, rfl, rfl, fun h => huv (hformat h), fun h => hvw (hformat' h),
    fun h => huv (hprint _ _ h), fun h => hvw (hprint' _ _ h)⟩

end LineArithmetic
