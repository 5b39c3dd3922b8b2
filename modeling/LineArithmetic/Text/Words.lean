import LineArithmetic.Text.Blank

/-!
# Words

The words of a text are its longest runs without blanks.  They are read off
from the right: the state is the word being collected and the words after it.
-/

namespace LineArithmetic.Text

/-- Puts a finished word in front of the others, unless nothing was collected. -/
def closeWord (word : List Char) (others : List (List Char)) : List (List Char) :=
  if word.isEmpty then others else word :: others

/-- One character further to the left. -/
def collect (c : Char) (state : List Char × List (List Char)) :
    List Char × List (List Char) :=
  if isBlank c then ([], closeWord state.1 state.2) else (c :: state.1, state.2)

/-- The longest runs without blanks, in order. -/
def words (cs : List Char) : List (List Char) :=
  let state := cs.foldr collect ([], [])
  closeWord state.1 state.2

@[simp] theorem words_nil : words [] = [] := rfl

theorem foldr_collect_no_blank {cs : List Char} (h : ∀ c ∈ cs, isBlank c = false) :
    cs.foldr collect ([], []) = (cs, []) := by
  induction cs with
  | nil => rfl
  | cons c cs ih =>
    rw [List.foldr_cons, ih fun d hd => h d (List.mem_cons_of_mem _ hd)]
    simp [collect, h c]

/-- A text without blanks is one word. -/
theorem words_eq_singleton {cs : List Char} (hne : cs ≠ [])
    (h : ∀ c ∈ cs, isBlank c = false) : words cs = [cs] := by
  simp [words, foldr_collect_no_blank h, closeWord, hne]

end LineArithmetic.Text
