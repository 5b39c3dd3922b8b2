import LineArithmetic.Proofs.Numbering
import LineArithmetic.Proofs.Words

/-!
# Messages and their diagnostics

A message is put together from fixed texts and from the parts of its diagnostic, and
nothing in it is escaped, so a token can look like the rest of a message.  The parts can
be told apart all the same, because each of them ends at a character that it does not
hold itself: what is wrong ends in front of an equals sign, what is expected in front of
a comma, and the token with the quote in front of the next space.

* `eq_of_append_cons`: a text is cut at the first place of a character in one way.
* `Diagnostic.IsLegible`: what this needs of the parts.  Lines have such diagnostics
  (`isLegible_of_compileLine`), since the texts of their tokens hold no blanks.
* `Diagnostic.eq_of_message_eq`: so the message of a legible diagnostic gives back all
  of its parts.
-/

namespace LineArithmetic

open Text

/-! ## Cutting a text -/

/-- What stands in front of the first place of a character, and what stands behind it,
are determined by the text. -/
theorem Text.eq_of_append_cons {c : Char} {left left' right right' : List Char}
    (hleft : c ∉ left) (hleft' : c ∉ left')
    (h : left ++ c :: right = left' ++ c :: right') : left = left' ∧ right = right' := by
  induction left generalizing left' with
  | nil =>
    cases left' with
    | nil => exact ⟨rfl, (List.cons.inj h).2⟩
    | cons d left' =>
      obtain ⟨rfl, -⟩ := List.cons.inj h
      exact absurd List.mem_cons_self hleft'
  | cons d left ih =>
    cases left' with
    | nil =>
      obtain ⟨rfl, -⟩ := List.cons.inj h
      exact absurd List.mem_cons_self hleft
    | cons e left' =>
      obtain ⟨rfl, htail⟩ := List.cons.inj h
      rw [List.mem_cons, not_or] at hleft hleft'
      obtain ⟨rfl, hright⟩ := ih hleft.2 hleft'.2 htail
      exact ⟨rfl, hright⟩

/-! ## Reading a message -/

namespace Diagnostic

/-- The message of a diagnostic, with the character behind each part set apart. -/
theorem toList_message (d : Diagnostic) : d.message.toList =
    heading.toList ++ (d.kind.summary.toList ++ [' '] ++ '=' :: ("> expected ".toList ++
      (d.expected.toList ++ ',' :: (" got '".toList ++ (d.token.toList ++ ['\''] ++
        ' ' :: ("on line ".toList ++ (toString d.line).toList)))))) := by
  have harrow : " => expected ".toList = ' ' :: '=' :: "> expected ".toList := by decide
  have hgot : ", got '".toList = ',' :: " got '".toList := by decide
  have hline : "' on line ".toList = '\'' :: ' ' :: "on line ".toList := by decide
  simp only [message, String.toList_append, harrow, hgot, hline, List.append_assoc,
    List.cons_append, List.nil_append]

/-- A diagnostic whose parts do not hold the characters behind them in its message. -/
structure IsLegible (d : Diagnostic) : Prop where
  expected : ',' ∉ d.expected.toList
  token : ' ' ∉ d.token.toList

theorem Kind.summary_injective : Function.Injective Kind.summary := by
  intro k k'
  cases k <;> cases k' <;> decide

/-- The words for what is wrong hold no equals sign. -/
theorem Kind.equals_notMem (k : Kind) : '=' ∉ k.summary.toList ++ [' '] := by
  cases k <;> decide

/-- The quote behind a token is no space. -/
theorem IsLegible.space_notMem {d : Diagnostic} (h : d.IsLegible) :
    ' ' ∉ d.token.toList ++ ['\''] := by
  rw [List.mem_append, not_or]
  exact ⟨h.token, by decide⟩

/-- A legible diagnostic is determined by its message. -/
theorem eq_of_message_eq {d d' : Diagnostic} (hd : d.IsLegible) (hd' : d'.IsLegible)
    (h : d.message = d'.message) : d = d' := by
  have hlists := congrArg String.toList h
  rw [toList_message, toList_message, List.append_cancel_left_eq] at hlists
  -- Each part is cut off at the character behind it, and the fixed text up to the next
  -- part is cancelled.
  obtain ⟨hsummary, hbehind⟩ :=
    eq_of_append_cons d.kind.equals_notMem d'.kind.equals_notMem hlists
  rw [List.append_cancel_right_eq, String.toList_inj] at hsummary
  rw [List.append_cancel_left_eq] at hbehind
  obtain ⟨hexpected, hbehind⟩ := eq_of_append_cons hd.expected hd'.expected hbehind
  rw [String.toList_inj] at hexpected
  rw [List.append_cancel_left_eq] at hbehind
  obtain ⟨htoken, hbehind⟩ := eq_of_append_cons hd.space_notMem hd'.space_notMem hbehind
  rw [List.append_cancel_right_eq, String.toList_inj] at htoken
  rw [List.append_cancel_left_eq, String.toList_inj] at hbehind
  have hline : d.line = d'.line := toString_int_injective hbehind
  cases d
  cases d'
  obtain rfl := Kind.summary_injective hsummary
  obtain rfl := hexpected
  obtain rfl := htoken
  obtain rfl := hline
  rfl

end Diagnostic

/-! ## Diagnostics of lines -/

section Line

variable {line line' : String} {number number' : Int} {d d' : Diagnostic}

/-- What a line is expected to hold is told without a comma, and tokens hold no blanks. -/
theorem isLegible_of_compileLine (h : (compileLine line number).result = .ok (.diagnostic d)) :
    d.IsLegible := by
  rcases compileLine_cases line number with
    ⟨-, hcase⟩ | ⟨c, -, hcase⟩ | ⟨distance, t, ht, -, -, hcase⟩ | ⟨-, -, -, hcase⟩
  all_goals rw [h] at hcase
  · cases hcase
  · cases c <;> cases hcase
  · obtain rfl := Node.diagnostic.inj (Except.ok.inj hcase)
    have hmem : t ∈ lineTokens (some line) := List.mem_reverse.mp (List.mem_of_getElem? ht)
    refine ⟨?_, fun hspace => ?_⟩
    · show ',' ∉ (if distance % 2 = 0 then Parser.aNumber else Parser.anOperator).toList
      split <;> decide
    · have hblank := (isWord_of_mem_lineTokens hmem).isBlank_eq ' ' hspace
      exact absurd hblank (by decide)
  · obtain rfl := Node.diagnostic.inj (Except.ok.inj hcase)
    have hexpected : ',' ∉ Parser.aNumber.toList := by decide
    exact ⟨hexpected, List.not_mem_nil⟩

/-- The message of a line that does not compile identifies its diagnostic: what is wrong,
what was expected, the offending token and the number of the line, whatever characters
the line holds. -/
theorem message_identifies_diagnostic
    (h : (compileLine line number).result = .ok (.diagnostic d))
    (h' : (compileLine line' number').result = .ok (.diagnostic d'))
    (hmessage : d.message = d'.message) : d = d' ∧ number = number' := by
  obtain rfl := Diagnostic.eq_of_message_eq (isLegible_of_compileLine h)
    (isLegible_of_compileLine h') hmessage
  refine ⟨rfl, ?_⟩
  rw [result_compileLine] at h h'
  rw [← line_of_lineNode (Except.ok.inj h), line_of_lineNode (Except.ok.inj h')]

end Line

/-- A token that looks like parts of a message is the first misfit of two lines. -/
theorem message_imitated : ∃ d d' : Diagnostic,
    (compileLine "x',=> * 2" 3).result = .ok (.diagnostic d) ∧
    (compileLine "1 x',=>" 3).result = .ok (.diagnostic d') ∧
    d.message = "[COMPILATION ERROR]: Invalid token provided => " ++
      "expected a number literal, got 'x',=>' on line 3" ∧
    d.message = d'.message ∧ d = d' := by
  have hfirst : (compileLine "x',=> * 2" 3).result =
      .ok (.diagnostic ⟨.invalidToken, "a number literal", "x',=>", 3⟩) := by decide +kernel
  have hsecond : (compileLine "1 x',=>" 3).result =
      .ok (.diagnostic ⟨.invalidToken, "a number literal", "x',=>", 3⟩) := by decide +kernel
  refine ⟨_, _, hfirst, hsecond, by decide +kernel, rfl, ?_⟩
  exact (message_identifies_diagnostic hfirst hsecond rfl).1

end LineArithmetic
