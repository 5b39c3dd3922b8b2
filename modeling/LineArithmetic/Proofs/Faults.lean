import LineArithmetic.Proofs.CheckedEvaluation
import LineArithmetic.Proofs.Documents

/-!
# The fault of a tree

Trees that are put together by hand can hold anything, and several things can be wrong
with one tree.  Evaluating it then fails with the fault of the first place that has one.

* `Node.places` lists the places of a tree in the order in which they are evaluated, and
  `Node.placeFault?` says what is wrong at one of them, given that nothing is wrong in
  front of it.
* `read?_message`: a diagnostic is never an operand, since no message is read as a
  number.
* `Node.combine_cases`: an operation whose operands have values fails exactly if something
  is wrong at its own place.
* `Node.eval_cases`: so evaluating a tree gives the fault of its first faulty place, or a
  value if it has none.  This is the induction over the tree.
-/

namespace LineArithmetic

/-! ## Places -/

namespace Node

/-- The places of a tree from the left to the right, each operation behind its
operands. -/
def places : Node → List Node
  | binary op left right => places left ++ places right ++ [binary op left right]
  | node => [node]

/-- What is wrong with a tree as an operand when it has a value. -/
def operandFault? : Node → Option Fault
  | void => some .missingOperand
  | diagnostic d => some (.unreadableNumber d.message)
  | _ => none

/-- What is wrong at a place when everything in front of it has a value.  An operation is
asked for its operator first, and then for its operands from the left to the right. -/
def placeFault? : Node → Option Fault
  | foreign leaf => some (.notATree leaf)
  | binary op left right =>
    if op ∈ ["+", "-", "*", "/"] then left.operandFault?.or right.operandFault?
    else some (.unknownOperator op)
  | _ => none

theorem mem_places_self (node : Node) : node ∈ node.places := by
  cases node <;> simp [places]

/-- The operands of an operation that is a place of a tree are places of it too. -/
theorem operands_mem_places {node left right : Node} {op : String}
    (h : binary op left right ∈ node.places) : left ∈ node.places ∧ right ∈ node.places := by
  induction node with
  | void | number | diagnostic | foreign => simp [places] at h
  | binary op' left' right' ihleft ihright =>
    simp only [places, List.mem_append, List.mem_singleton] at h ⊢
    rcases h with (h | h) | h
    · obtain ⟨hleft, hright⟩ := ihleft h
      exact ⟨Or.inl (Or.inl hleft), Or.inl (Or.inl hright)⟩
    · obtain ⟨hleft, hright⟩ := ihright h
      exact ⟨Or.inl (Or.inr hleft), Or.inl (Or.inr hright)⟩
    · obtain ⟨-, rfl, rfl⟩ := binary.inj h
      exact ⟨Or.inl (Or.inl left.mem_places_self), Or.inl (Or.inr right.mem_places_self)⟩

/-- A place of a tree is the whole tree, or an operand of an operation that is a place of
it. -/
theorem eq_or_operand_of_mem_places {node place : Node} (h : place ∈ node.places) :
    place = node ∨ ∃ op left right, binary op left right ∈ node.places ∧
      (place = left ∨ place = right) := by
  induction node with
  | void | number | diagnostic | foreign =>
    left
    simpa [places] using h
  | binary op left right ihleft ihright =>
    simp only [places, List.mem_append, List.mem_singleton] at h ⊢
    rcases h with (h | h) | h
    · right
      rcases ihleft h with rfl | ⟨op', l, r, hmem, hplace⟩
      · exact ⟨op, place, right, Or.inr rfl, Or.inl rfl⟩
      · exact ⟨op', l, r, Or.inl (Or.inl hmem), hplace⟩
    · right
      rcases ihright h with rfl | ⟨op', l, r, hmem, hplace⟩
      · exact ⟨op, left, place, Or.inr rfl, Or.inr rfl⟩
      · exact ⟨op', l, r, Or.inl (Or.inr hmem), hplace⟩
    · exact Or.inl h

end Node

/-! ## Messages are no numbers -/

/-- What starts with a character that is not trimmed starts with it afterwards. -/
theorem Text.exists_trim_cons {p : Char → Bool} {c : Char} (h : p c = false) (cs : List Char) :
    ∃ ds, trim p (c :: cs) = c :: ds := by
  have hfirst : (c :: cs).dropWhile p = c :: cs := List.dropWhile_cons_of_neg (by simp [h])
  rw [trim, hfirst, List.reverse_cons, List.dropWhile_append]
  split
  · rw [List.dropWhile_cons_of_neg (by simp [h])]
    exact ⟨[], rfl⟩
  · rw [List.reverse_append]
    exact ⟨_, rfl⟩

/-- No number starts with a bracket. -/
theorem Binary64.ofPlain?_bracket (cs : List Char) : ofPlain? ('[' :: cs) = none := by
  have hsign : Text.takeSign ('[' :: cs) = (false, '[' :: cs) := rfl
  have hword : ∀ (c : Char) (ds : List Char), c ≠ '[' →
      String.ofList (('[' :: cs).map Char.toLower) ≠ String.ofList (c :: ds) := by
    intro c ds hc heq
    apply hc
    exact (List.cons.inj (String.ofList_injective heq)).1.symm
  have hinf := hword 'i' ['n', 'f'] (by decide)
  have hinfinity := hword 'i' ['n', 'f', 'i', 'n', 'i', 't', 'y'] (by decide)
  have hnan := hword 'n' ['a', 'n'] (by decide)
  have hmagnitude : readMagnitude? false ('[' :: cs) = none := rfl
  simp only [ofPlain?, hsign]
  rw [if_neg (not_or.mpr ⟨hinf, hinfinity⟩), if_neg hnan, hmagnitude]

/-- A message is read as no number, since it starts with a bracket. -/
theorem Diagnostic.read?_message (d : Diagnostic) : Binary64.read? d.message = none := by
  have hheading : heading.toList = '[' :: "COMPILATION ERROR]: ".toList := by decide
  obtain ⟨cs, hcs⟩ : ∃ cs, d.message.toList = '[' :: cs := by
    simp only [message, String.toList_append, hheading, List.cons_append]
    exact ⟨_, rfl⟩
  have hform : Text.asciiForm '[' = '[' := by decide
  obtain ⟨ds, hds⟩ := Text.exists_trim_cons (p := Text.isAsciiBlank) (c := '[') (by decide)
    (cs.map Text.asciiForm)
  have hplain : ∀ plain, Text.plainForm? d.message = some plain → ∃ es, plain = '[' :: es := by
    intro plain h
    rw [Text.plainForm?, hcs, List.map_cons, hform, hds] at h
    split at h
    · obtain rfl := Option.some.inj h
      exact ⟨_, List.filter_cons_of_pos (by decide)⟩
    · cases h
  rw [Binary64.read?]
  cases h : Text.plainForm? d.message with
  | none => rfl
  | some plain =>
    obtain ⟨es, rfl⟩ := hplain plain h
    exact Binary64.ofPlain?_bracket es

/-! ## Operations -/

namespace Node

theorem operation?_eq_none_iff {op : String} :
    operation? op = none ↔ op ∉ ["+", "-", "*", "/"] := by
  unfold operation?
  split <;> simp_all

/-- The value of a tree is an operand unless something is wrong with the tree as one. -/
theorem toBinary64_of_eval {node : Node} {v : Value} (h : node.eval = .ok v) :
    (∃ fault, node.operandFault? = some fault ∧ v.toBinary64 = .error fault) ∨
      node.operandFault? = none ∧ ∃ x, v.toBinary64 = .ok x := by
  cases node with
  | void =>
    obtain rfl := Except.ok.inj h
    exact Or.inl ⟨_, rfl, rfl⟩
  | number numeral =>
    obtain rfl := Except.ok.inj h
    exact Or.inr ⟨rfl, _, rfl⟩
  | diagnostic d =>
    obtain rfl := Except.ok.inj h
    left
    refine ⟨_, rfl, ?_⟩
    rw [Value.toBinary64, d.read?_message]
  | foreign leaf => cases h
  | binary op left right =>
    obtain ⟨l, r, -, -, hcombine⟩ := eval_binary_eq_ok_iff.mp h
    obtain ⟨f, x, y, -, -, -, rfl⟩ := Value.combine_eq_ok_iff.mp hcombine
    exact Or.inr ⟨rfl, _, rfl⟩

/-- An operation whose operands have values fails with what is wrong at its own place. -/
theorem combine_cases {op : String} {left right : Node} {l r : Value} (hl : left.eval = .ok l)
    (hr : right.eval = .ok r) :
    (∃ fault, (binary op left right).placeFault? = some fault ∧
        Value.combine op l r = .error fault) ∨
      (binary op left right).placeFault? = none ∧ ∃ v, Value.combine op l r = .ok v := by
  cases hop : operation? op with
  | none =>
    left
    refine ⟨.unknownOperator op, if_neg (operation?_eq_none_iff.mp hop), ?_⟩
    rw [Value.combine, hop]
  | some f =>
    have hmem : op ∈ ["+", "-", "*", "/"] := by
      by_contra hnot
      rw [operation?_eq_none_iff.mpr hnot] at hop
      cases hop
    have hplace : (binary op left right).placeFault? =
        left.operandFault?.or right.operandFault? := if_pos hmem
    rw [hplace, Value.combine, hop]
    rcases toBinary64_of_eval hl with ⟨fault, hfault, hx⟩ | ⟨hnone, x, hx⟩
    · left
      rw [hfault, hx]
      exact ⟨fault, rfl, rfl⟩
    · rw [hnone, hx, Option.none_or]
      rcases toBinary64_of_eval hr with ⟨fault, hfault, hy⟩ | ⟨hnone', y, hy⟩
      · left
        rw [hfault, hy]
        exact ⟨fault, rfl, rfl⟩
      · right
        rw [hnone', hy]
        exact ⟨rfl, _, rfl⟩

/-! ## Trees -/

/-- The fault at the first place of a tree that has one. -/
def firstFault? (node : Node) : Option Fault :=
  node.places.findSome? placeFault?

theorem firstFault?_binary (op : String) (left right : Node) :
    (binary op left right).firstFault? =
      (left.firstFault?.or right.firstFault?).or (binary op left right).placeFault? := by
  simp [firstFault?, places, List.findSome?_append, Option.or_assoc]

/-- A tree has its first fault, or it has no fault and a value. -/
theorem eval_cases (node : Node) :
    (∃ fault, node.firstFault? = some fault ∧ node.eval = .error fault) ∨
      node.firstFault? = none ∧ ∃ v, node.eval = .ok v := by
  induction node with
  | void => exact Or.inr ⟨rfl, _, rfl⟩
  | number numeral => exact Or.inr ⟨rfl, _, rfl⟩
  | diagnostic d => exact Or.inr ⟨rfl, _, rfl⟩
  | foreign leaf => exact Or.inl ⟨_, rfl, rfl⟩
  | binary op left right ihleft ihright =>
    rw [firstFault?_binary, eval]
    rcases ihleft with ⟨fault, hfault, hl⟩ | ⟨hnone, l, hl⟩
    · rw [hfault, hl]
      exact Or.inl ⟨fault, rfl, rfl⟩
    · rw [hnone, hl, Option.none_or]
      rcases ihright with ⟨fault, hfault, hr⟩ | ⟨hnone', r, hr⟩
      · rw [hfault, hr]
        exact Or.inl ⟨fault, rfl, rfl⟩
      · rw [hnone', hr, Option.none_or]
        exact combine_cases hl hr

/-- Evaluating a tree fails exactly with its first fault. -/
theorem eval_eq_error_iff {node : Node} {fault : Fault} :
    node.eval = .error fault ↔ node.firstFault? = some fault := by
  rcases node.eval_cases with ⟨fault', hfault, heval⟩ | ⟨hnone, v, heval⟩
  · rw [hfault, heval, Except.error.injEq, Option.some.injEq]
  · rw [hnone, heval]
    exact iff_of_false nofun nofun

/-- A tree fails if something is wrong at one of its places. -/
theorem exists_fault_of_mem {node place : Node} {fault : Fault} (hmem : place ∈ node.places)
    (hfault : place.placeFault? = some fault) : ∃ fault, node.eval = .error fault := by
  have hsome : node.firstFault?.isSome := by
    rw [firstFault?, List.findSome?_isSome_iff]
    exact ⟨place, hmem, by rw [hfault]; rfl⟩
  obtain ⟨first, hfirst⟩ := Option.isSome_iff_exists.mp hsome
  exact ⟨first, eval_eq_error_iff.mpr hfirst⟩

/-- What is wrong with an operation: an operator that is none of the four, or an operand
that is no number and no operation. -/
def IsFaultyOperation (op : String) (left right : Node) : Prop :=
  op ∉ ["+", "-", "*", "/"] ∨ ¬ left.IsExpression ∨ ¬ right.IsExpression

theorem exists_placeFault?_binary {op : String} {left right : Node} :
    (∃ fault, (binary op left right).placeFault? = some fault) ↔
      op ∉ ["+", "-", "*", "/"] ∨ (∃ fault, left.operandFault? = some fault) ∨
        ∃ fault, right.operandFault? = some fault := by
  by_cases hop : op ∈ ["+", "-", "*", "/"]
  · have hplace : (binary op left right).placeFault? =
        left.operandFault?.or right.operandFault? := if_pos hop
    rw [hplace, or_iff_right (not_not.mpr hop)]
    cases left.operandFault? with
    | none => simp
    | some fault => simp
  · have hplace : (binary op left right).placeFault? = some (.unknownOperator op) := if_neg hop
    exact iff_of_true ⟨_, hplace⟩ (Or.inl hop)

/-- What is no expression is wrong as an operand, or in its own place. -/
theorem exists_fault_of_not_isExpression {node : Node} (h : ¬ node.IsExpression) :
    (∃ fault, node.operandFault? = some fault) ∨ ∃ fault, node.placeFault? = some fault := by
  cases node with
  | number | binary => exact absurd trivial h
  | void | diagnostic => exact Or.inl ⟨_, rfl⟩
  | foreign => exact Or.inr ⟨_, rfl⟩

theorem not_isExpression_of_operandFault? {node : Node} {fault : Fault}
    (h : node.operandFault? = some fault) : ¬ node.IsExpression := by
  cases node with
  | number | binary | foreign => cases h
  | void | diagnostic => exact id

/-- A tree with a faulty operation fails. -/
theorem IsFaultyOperation.exists_fault {node left right : Node} {op : String}
    (h : IsFaultyOperation op left right) (hmem : binary op left right ∈ node.places) :
    ∃ fault, node.eval = .error fault := by
  obtain ⟨hleft, hright⟩ := operands_mem_places hmem
  have hplace := @exists_placeFault?_binary op left right
  rcases h with hop | hl | hr
  · obtain ⟨fault, hfault⟩ := hplace.mpr (Or.inl hop)
    exact exists_fault_of_mem hmem hfault
  · rcases exists_fault_of_not_isExpression hl with hoperand | ⟨fault, hfault⟩
    · obtain ⟨fault, hfault⟩ := hplace.mpr (Or.inr (Or.inl hoperand))
      exact exists_fault_of_mem hmem hfault
    · exact exists_fault_of_mem hleft hfault
  · rcases exists_fault_of_not_isExpression hr with hoperand | ⟨fault, hfault⟩
    · obtain ⟨fault, hfault⟩ := hplace.mpr (Or.inr (Or.inr hoperand))
      exact exists_fault_of_mem hmem hfault
    · exact exists_fault_of_mem hright hfault

/-- A tree fails exactly if it is foreign or has a faulty operation. -/
theorem exists_fault_iff {node : Node} :
    (∃ fault, node.eval = .error fault) ↔
      (∃ leaf, node = .foreign leaf) ∨ ∃ op left right,
        binary op left right ∈ node.places ∧ IsFaultyOperation op left right := by
  constructor
  · rintro ⟨fault, heval⟩
    obtain ⟨place, hmem, hplace⟩ :=
      List.exists_of_findSome?_eq_some (eval_eq_error_iff.mp heval)
    cases place with
    | void | number | diagnostic => cases hplace
    | binary op left right =>
      right
      refine ⟨op, left, right, hmem, ?_⟩
      rcases exists_placeFault?_binary.mp ⟨fault, hplace⟩ with
        hop | ⟨other, hother⟩ | ⟨other, hother⟩
      · exact Or.inl hop
      · exact Or.inr (Or.inl (not_isExpression_of_operandFault? hother))
      · exact Or.inr (Or.inr (not_isExpression_of_operandFault? hother))
    | foreign leaf =>
      rcases eq_or_operand_of_mem_places hmem with heq | ⟨op, left, right, hmem', rfl | rfl⟩
      · exact Or.inl ⟨leaf, heq.symm⟩
      · exact Or.inr ⟨op, _, right, hmem', Or.inr (Or.inl id)⟩
      · exact Or.inr ⟨op, left, _, hmem', Or.inr (Or.inr id)⟩
  · rintro (⟨leaf, rfl⟩ | ⟨op, left, right, hmem, hfaulty⟩)
    · exact ⟨_, rfl⟩
    · exact hfaulty.exists_fault hmem

/-- A traversal of trees fails exactly if one of them does. -/
theorem exists_fault_evalAll_iff {nodes : List Node} :
    (∃ fault, evalAll nodes = .error fault) ↔
      ∃ node ∈ nodes, ∃ fault, node.eval = .error fault := by
  constructor
  · rintro ⟨fault, h⟩
    obtain ⟨before, node, after, rfl, -, hnode⟩ := mapM_eq_error_iff.mp h
    exact ⟨node, List.mem_append_right before List.mem_cons_self, fault, hnode⟩
  · rintro ⟨node, hmem, fault, hnode⟩
    cases h : evalAll nodes with
    | error first => exact ⟨first, rfl⟩
    | ok values =>
      obtain ⟨v, hv⟩ := exists_eq_ok_of_mem h hmem
      rw [hnode] at hv
      cases hv

/-- When evaluating a tree fails, and how.

It fails exactly if the tree is foreign, or if some operation in it has an operator that
is none of the four or an operand that is no number and no operation.  The fault is that
of the first place that has one, from the left to the right with each operation behind
its operands: a foreign leaf is not a tree, and an operation is asked for its operator,
then for its left and then for its right operand.  Nothing else goes wrong, even if the
evaluation is made of partial steps, and an integer that comes out is small.  Several
trees fail exactly if one of them does, with the fault of the first one that does. -/
theorem eval_fails_first :
    (∀ node : Node,
      ((∃ fault, node.eval = .error fault) ↔
        (∃ leaf, node = .foreign leaf) ∨ ∃ op left right,
          .binary op left right ∈ node.places ∧ IsFaultyOperation op left right) ∧
      (∀ fault, node.eval = .error fault ↔ node.places.findSome? placeFault? = some fault) ∧
      (∀ failure, node.checkedEval = .error failure ↔
        ∃ fault, node.eval = .error fault ∧ failure = .fault fault) ∧
      ∀ k, node.eval = .ok (.number (.int k)) → k.natAbs ≤ 2 ^ 53) ∧
    ∀ nodes : List Node,
      ((∃ fault, evalAll nodes = .error fault) ↔
        ∃ node ∈ nodes, ∃ fault, node.eval = .error fault) ∧
      ∀ fault, evalAll nodes = .error fault ↔ ∃ before node after,
        nodes = before ++ node :: after ∧ (∀ other ∈ before, ∃ v, other.eval = .ok v) ∧
          node.eval = .error fault := by
  refine ⟨fun node => ⟨exists_fault_iff, fun fault => eval_eq_error_iff, fun failure => ?_, ?_⟩,
    fun nodes => ⟨exists_fault_evalAll_iff, fun fault => mapM_eq_error_iff⟩⟩
  · rw [checkedEval_eq]
    cases node.eval with
    | error fault => simp [Except.mapError, eq_comm]
    | ok v => simp [Except.mapError]
  · intro k hk
    exact isSmall_of_eval hk

def nineLiteral : Literal := ⟨"9", by decide⟩

def nineSquared : Node :=
  .binary "*" (.number nineLiteral.numeral) (.number nineLiteral.numeral)

/-- An unknown operator over a sum of nothing and a diagnostic, and over a text. -/
def manyFaults : Node :=
  .binary "^" (.binary "+" .void (.diagnostic ⟨.invalidToken, "a number literal", "x", 1⟩))
    (.foreign (.value (.text "2")))

/-- Of many faults the first one in the order of evaluation is met: the missing operand of
the sum. -/
theorem eval_manyFaults :
    manyFaults.eval = .error .missingOperand ∧
    manyFaults.checkedEval = .error (.fault .missingOperand) ∧
    evalAll [nineSquared, manyFaults] = .error .missingOperand ∧
    nineSquared.eval = .ok (.number (.int 81)) ∧ (81 : Int).natAbs ≤ 2 ^ 53 := by
  obtain ⟨htree, htrees⟩ := eval_fails_first
  have hsquare : nineSquared.eval = .ok (.number (.int 81)) := by decide +kernel
  obtain ⟨-, hfirst, hsteps, -⟩ := htree manyFaults
  have hfault : manyFaults.eval = .error .missingOperand := by
    apply (hfirst _).mpr
    decide
  obtain ⟨-, -, -, hsmall⟩ := htree nineSquared
  refine ⟨hfault, (hsteps _).mpr ⟨_, hfault, rfl⟩, ?_, hsquare, hsmall 81 hsquare⟩
  apply ((htrees [nineSquared, manyFaults]).2 _).mpr
  refine ⟨[nineSquared], manyFaults, [], rfl, ?_, hfault⟩
  rw [List.forall_mem_singleton]
  exact ⟨_, hsquare⟩

end Node

end LineArithmetic
