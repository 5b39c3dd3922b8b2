import LineArithmetic.Proofs.Documents
import LineArithmetic.Proofs.Reuse

/-!
# Parsing onto a stack that was filled by hand

A parser that starts a line has nothing on its stack, but trees can be put there by
hand before it is asked to parse.  The loop then folds the top tree with the tokens
that are left and never looks at the others.

* `nextFold?` is the fold that the next turn of the loop makes, and `Turns` says which
  parser the turns lead to as long as no fold fails.
* `nextFold?_frame`, `Turns.frame`: one turn, and so any number of turns, leaves alone
  every tree below the top and the number of the line.
* `exists_turns`: a run makes turns until a fold fails or no token is left.

What is answered when no token is left depends on how many trees there are.  A single
tree is taken from the stack.  Several trees are shown in a diagnostic and stay where
they are (`finish_several`), so that asking again gives the same answer.
-/

namespace LineArithmetic

/-! ## Trees without foreign parts -/

namespace Node

/-- Whether a tree is made of nothings, numbers, operations and diagnostics only. -/
def IsNative : Node → Prop
  | void | number _ | diagnostic _ => True
  | binary _ left right => left.IsNative ∧ right.IsNative
  | foreign _ => False

theorem IsNative.exists_render {node : Node} (h : node.IsNative) :
    ∃ text, node.render = .ok text := by
  induction node with
  | void => exact ⟨_, rfl⟩
  | number numeral => exact ⟨_, rfl⟩
  | diagnostic d => exact ⟨_, rfl⟩
  | foreign leaf => exact h.elim
  | binary op left right ihleft ihright =>
    obtain ⟨l, hl⟩ := ihleft h.1
    obtain ⟨r, hr⟩ := ihright h.2
    rw [render, hl, hr]
    exact ⟨_, rfl⟩

/-- Trees without foreign parts are rendered one by one. -/
theorem exists_renderings {nodes : List Node} (h : ∀ node ∈ nodes, node.IsNative) :
    ∃ texts, List.Forall₂ (fun node text => node.render = .ok text) nodes texts := by
  obtain ⟨texts, htexts⟩ := exists_mapM_eq_ok fun node hnode => (h node hnode).exists_render
  exact ⟨texts, mapM_eq_ok_iff.mp htexts⟩

end Node

namespace Parser

/-- A fold puts nothing foreign into a tree. -/
theorem FoldEffect.isNative {p : Parser} {acc node : Node} {op : Token} {step : Step}
    (h : FoldEffect p acc op step) (hacc : acc.IsNative) (hresult : step.result = .ok node) :
    node.IsNative := by
  cases h with
  | foreign | unreadable => cases hresult
  | diagnostic | void | noOperator | noOperand | wrongOperand =>
    obtain rfl := Except.ok.inj hresult
    trivial
  | operation =>
    obtain rfl := Except.ok.inj hresult
    exact ⟨hacc, trivial⟩

/-! ## Turns of the loop -/

/-- The fold that the next turn of the loop makes: that of the top tree with the next
token. -/
def nextFold? (p : Parser) : Option Step :=
  match p.pending, p.stack with
  | t :: rest, acc :: below => some (fold { p with pending := rest, stack := below } acc t)
  | _, _ => none

/-- What a number of turns leads to when each of their folds gives a tree, which is put
back on the stack. -/
inductive Turns : Parser → Parser → Prop where
  | none (p : Parser) : Turns p p
  | turn {p q : Parser} {step : Step} {node : Node} (hfold : p.nextFold? = some step)
      (hresult : step.result = .ok node) (hnode : ∀ d, node ≠ .diagnostic d)
      (hturns : Turns (step.parser.push node) q) : Turns p q

section Turns

variable {p q : Parser} {step : Step} {top : Node} {below : List Node}

/-- A turn takes the top tree from the stack, and tokens from the end of the line.  The
other trees and the number of the line it leaves alone. -/
theorem nextFold?_frame (h : p.nextFold? = some step) (hstack : p.stack = top :: below) :
    step.parser.stack = below ∧ step.parser.line = p.line ∧
      step.parser.pending <:+ p.pending ∧
      (top.IsNative → ∀ node, step.result = .ok node → node.IsNative) := by
  obtain ⟨pending, stack, line⟩ := p
  obtain rfl : stack = top :: below := hstack
  cases pending with
  | nil => cases h
  | cons t rest =>
    obtain rfl := Option.some.inj h
    have heffect := fold_effect ⟨rest, below, line⟩ top t
    exact ⟨heffect.stack_eq, heffect.line_eq,
      heffect.pending_suffix.trans (List.suffix_cons t rest),
      fun htop _ hresult => heffect.isNative htop hresult⟩

/-- Turns change the top of the stack at most. -/
theorem Turns.frame (h : Turns p q) (hstack : p.stack = top :: below) :
    q.line = p.line ∧ q.pending <:+ p.pending ∧
      ∃ top', q.stack = top' :: below ∧ (top.IsNative → top'.IsNative) := by
  induction h generalizing top with
  | none p => exact ⟨rfl, List.suffix_rfl, top, hstack, id⟩
  | @turn p q step node hfold hresult hnode hturns ih =>
    obtain ⟨hbelow, hline, hsuffix, hnative⟩ := nextFold?_frame hfold hstack
    have hpushed : (step.parser.push node).stack = node :: below := by
      rw [push, hbelow]
    obtain ⟨hline', hsuffix', top', hstack', hnative'⟩ := ih hpushed
    refine ⟨hline'.trans hline, hsuffix'.trans hsuffix, top', hstack', ?_⟩
    intro htop
    exact hnative' (hnative htop node hresult)

/-- A run makes turns until a fold fails, which is its end then, or until no token is
left. -/
theorem exists_turns : ∀ (p : Parser), p.stack ≠ [] → ∃ q, p.Turns q ∧
    ((∃ step, q.nextFold? = some step ∧ step.IsFailure ∧
        p.run.result = step.result ∧ p.run.parser = step.parser) ∨
      q.pending = [] ∧ p.run.result = q.finish.result ∧ p.run.parser = q.finish.parser)
  | ⟨_, [], _⟩, hne => absurd rfl hne
  | ⟨[], acc :: below, line⟩, _ => by
    refine ⟨_, .none _, Or.inr ⟨rfl, ?_⟩⟩
    rw [run]
    exact ⟨rfl, rfl⟩
  | ⟨t :: rest, acc :: below, line⟩, _ => by
    have hfold : nextFold? ⟨t :: rest, acc :: below, line⟩ =
        some (fold ⟨rest, below, line⟩ acc t) := rfl
    rcases run_fold_cases t rest acc below line with
      ⟨hrun, hfailure⟩ | ⟨node, hresult, hnode, hrun⟩
    · exact ⟨_, .none _, Or.inl ⟨_, hfold, hfailure, by rw [hrun], by rw [hrun]⟩⟩
    · obtain ⟨q, hturns, hend⟩ := exists_turns
        ((fold ⟨rest, below, line⟩ acc t).parser.push node) (List.cons_ne_nil _ _)
      rw [hrun]
      exact ⟨q, .turn hfold hresult hnode hturns, hend⟩
  termination_by p => p.pending.length
  decreasing_by
    have := pending_length_fold_le ⟨rest, below, line⟩ acc t
    simp only [push, List.length_cons] at this ⊢
    omega

end Turns

/-! ## What a parse answers -/

section Answers

variable {p : Parser} {top : Node} {below : List Node}

/-- A parser with a tree on its stack is not blank. -/
theorem parse_eq_run (h : p.stack ≠ []) : p.parse = p.run := by
  have hblank : p.isBlank = false := by
    rw [isBlank, List.isEmpty_eq_false_iff.mpr h]
    rfl
  rw [parse, hblank]
  rfl

theorem parse_done (hpending : p.pending = []) (hstack : p.stack = top :: below) :
    p.parse = p.finish := by
  obtain ⟨pending, stack, line⟩ := p
  obtain rfl : pending = [] := hpending
  obtain rfl : stack = top :: below := hstack
  rw [parse_eq_run (List.cons_ne_nil top below), run]

/-- Several trees are complained about and stay where they are. -/
theorem finish_several {line : Int} {texts : List String} (hbelow : below ≠ [])
    (htexts : List.Forall₂ (fun node text => node.render = .ok text)
      (top :: below).reverse texts) :
    finish ⟨[], top :: below, line⟩ = fail ⟨[], top :: below, line⟩ .multipleExpressions
      "a single token" (", ".intercalate texts) [] := by
  have hrender : Node.renderAll (top :: below).reverse = .ok (", ".intercalate texts) := by
    rw [Node.renderAll, mapM_eq_ok_iff.mpr htexts]
  cases below with
  | nil => exact absurd rfl hbelow
  | cons next others => simp only [finish, hrender]

theorem pending_finish (p : Parser) : p.finish.parser.pending = p.pending := by
  unfold finish
  split
  · rfl
  · rfl
  · split <;> rfl

/-- The two ends of a parse that finds a tree on the stack: a fold that fails, and the
end of the line. -/
theorem parse_ends (hstack : p.stack = top :: below) :
    ∃ q top', p.Turns q ∧ q.stack = top' :: below ∧ q.line = p.line ∧
      q.pending <:+ p.pending ∧ (top.IsNative → top'.IsNative) ∧
      ((∃ step, q.nextFold? = some step ∧ step.IsFailure ∧
          p.parse.result = step.result ∧ p.parse.parser = step.parser) ∨
        q.pending = [] ∧ p.parse.result = q.finish.result ∧
          p.parse.parser = q.finish.parser) := by
  have hne : p.stack ≠ [] := by
    rw [hstack]
    exact List.cons_ne_nil top below
  obtain ⟨q, hturns, hend⟩ := exists_turns p hne
  obtain ⟨hline, hsuffix, top', hstack', hnative⟩ := hturns.frame hstack
  rw [parse_eq_run hne]
  exact ⟨q, top', hturns, hstack', hline, hsuffix, hnative, hend⟩

/-- A parse leaves a front part of the tokens. -/
theorem remaining_parse_prefix (p : Parser) : p.parse.parser.remaining <+: p.remaining := by
  cases hstack : p.stack with
  | nil =>
    rcases parse_cases hstack with hvoid | hends
    · have hremaining : p.parse.parser.remaining = p.remaining := by rw [hvoid]
      exact hremaining ▸ List.prefix_rfl
    · exact hends.remaining_prefix
  | cons top below =>
    apply List.reverse_prefix.mpr
    obtain ⟨q, top', -, hstack', -, hsuffix, -, hend⟩ := parse_ends hstack
    rcases hend with ⟨step, hfold, -, -, hparser⟩ | ⟨-, -, hparser⟩
    · obtain ⟨-, -, htaken, -⟩ := nextFold?_frame hfold hstack'
      rw [hparser]
      exact htaken.trans hsuffix
    · rw [hparser, pending_finish]
      exact hsuffix

/-- A parse that finds one tree on the stack or none leaves none there. -/
theorem stack_parse_of_length (h : p.stack.length ≤ 1) : p.parse.parser.stack = [] := by
  cases hstack : p.stack with
  | nil => exact stack_parse hstack
  | cons top below =>
    obtain rfl : below = [] := by
      rw [hstack, List.length_cons] at h
      apply List.eq_nil_of_length_eq_zero
      omega
    obtain ⟨q, top', -, hstack', -, -, -, hend⟩ := parse_ends hstack
    rcases hend with ⟨step, hfold, -, -, hparser⟩ | ⟨-, -, hparser⟩
    · obtain ⟨hbelow, -⟩ := nextFold?_frame hfold hstack'
      rw [hparser, hbelow]
    · rw [hparser, finish, hstack']

end Answers

/-- A parse only touches the top of the stack, whatever was put there by hand and
whatever tokens are left.

It leaves a front part of the tokens.  If there is one tree on the stack or none, the
stack is empty afterwards.  If there are more, the answer is a fault or a diagnostic,
never a tree, and the trees below the top stay as they are.  Either the parse ends with
a fold that fails, and then the top is gone.  Or all folds succeed; then all tokens are
taken, the last tree that was folded is the new top, and the answer is a diagnostic that
shows all trees on the stack from the bottom up.  A further parse gives this answer
again and changes nothing. -/
theorem parse_touches_top (p : Parser) (h : ∀ node ∈ p.stack, node.IsNative) :
    p.parse.parser.remaining <+: p.remaining ∧
    (p.stack.length ≤ 1 → p.parse.parser.stack = []) ∧
    ∀ top below, p.stack = top :: below → below ≠ [] →
      (∀ node, p.parse.result = .ok node → ∃ d, node = .diagnostic d) ∧
      ((∃ q step, p.Turns q ∧ q.nextFold? = some step ∧ step.IsFailure ∧
          p.parse.result = step.result ∧ p.parse.parser = step.parser ∧
          p.parse.parser.stack = below) ∨
        ∃ top' texts, p.Turns ⟨[], top' :: below, p.line⟩ ∧
          p.parse.parser = ⟨[], top' :: below, p.line⟩ ∧
          List.Forall₂ (fun node text => node.render = .ok text) (top' :: below).reverse texts ∧
          p.parse.result = .ok (.diagnostic ⟨.multipleExpressions, "a single token",
            ", ".intercalate texts, p.line⟩) ∧
          p.parse.parser.parse = ⟨p.parse.result, p.parse.parser, []⟩) := by
  refine ⟨p.remaining_parse_prefix, stack_parse_of_length, ?_⟩
  intro top below hstack hbelow
  obtain ⟨q, top', hturns, hstack', hline, -, hnative, hend⟩ := parse_ends hstack
  rcases hend with ⟨step, hfold, hfailure, hresult, hparser⟩ | ⟨hpending, hresult, hparser⟩
  · obtain ⟨hleft, -⟩ := nextFold?_frame hfold hstack'
    refine ⟨?_, Or.inl ⟨q, step, hturns, hfold, hfailure, hresult, hparser, ?_⟩⟩
    · intro node hnode
      rw [hresult] at hnode
      exact hfailure.eq_diagnostic hnode
    · rw [hparser, hleft]
  · rw [hstack, List.forall_mem_cons] at h
    have hall : ∀ node ∈ (top' :: below).reverse, node.IsNative := by
      intro node hnode
      rcases List.mem_cons.mp (List.mem_reverse.mp hnode) with rfl | hmem
      · exact hnative h.1
      · exact h.2 node hmem
    obtain ⟨texts, htexts⟩ := Node.exists_renderings hall
    have hq : q = ⟨[], top' :: below, p.line⟩ := by
      rw [← hpending, ← hstack', ← hline]
    subst hq
    rw [finish_several hbelow htexts] at hresult hparser
    refine ⟨?_, Or.inr ⟨top', texts, hturns, hparser, htexts, hresult, ?_⟩⟩
    · intro node hnode
      rw [hresult] at hnode
      exact ⟨_, (Except.ok.inj hnode).symm⟩
    · rw [hresult, hparser]
      exact (parse_done rfl hstack').trans (finish_several hbelow htexts)

def threeLiteral : Literal := ⟨"3", by decide⟩

/-- A parser in front of `2 *` with a number on its stack, and nothing below it. -/
def filled : Parser :=
  ⟨[⟨.operator, "*"⟩, ⟨.number, "2"⟩], [.number threeLiteral.numeral, .void], 7⟩

/-- The tokens are folded into the number, and the nothing below it is complained about. -/
theorem parse_filled :
    filled.parse.result = .ok (.diagnostic ⟨.multipleExpressions, "a single token",
      "[ VOID VOID ], [ BINARY_EXPRESSION *, [ NUMBER 3 ], [ NUMBER 2 ] ]", 7⟩) ∧
    filled.parse.parser.parse = ⟨filled.parse.result, filled.parse.parser, []⟩ := by
  have hnative : ∀ node ∈ filled.stack, node.IsNative := by
    simp [filled, Node.IsNative]
  have hlength : filled.parse.parser.stack.length = 2 := by decide +kernel
  obtain ⟨-, -, hseveral⟩ := parse_touches_top filled hnative
  have hbelow : [Node.void] ≠ [] := List.cons_ne_nil _ _
  obtain ⟨-, hend⟩ := hseveral (.number threeLiteral.numeral) [.void] rfl hbelow
  rcases hend with ⟨q, step, -, -, -, -, -, hstack⟩ | ⟨top', texts, -, -, -, -, hagain⟩
  · rw [hstack] at hlength
    cases hlength
  · exact ⟨by decide +kernel, hagain⟩

end Parser

end LineArithmetic
