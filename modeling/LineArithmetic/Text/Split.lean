/-!
# Splitting at a character

A text is cut at every occurrence of a separator, so there is always one part
more than there are separators and parts may be empty.
-/

namespace LineArithmetic.Text

/-- One character further to the left: a separator starts a new first part, any
other character belongs to the first part. -/
def consPart (separator c : Char) : List (List Char) → List (List Char)
  | [] => if c = separator then [[], []] else [[c]]
  | part :: parts => if c = separator then [] :: part :: parts else (c :: part) :: parts

/-- The parts of a text between its separators. -/
def split (separator : Char) (cs : List Char) : List (List Char) :=
  cs.foldr (consPart separator) [[]]

/-- The parts of a text between its separators, as texts. -/
def splitText (separator : Char) (text : String) : List String :=
  (split separator text.toList).map String.ofList

@[simp] theorem split_nil (separator : Char) : split separator [] = [[]] := rfl

theorem split_cons (separator c : Char) (cs : List Char) :
    split separator (c :: cs) = consPart separator c (split separator cs) := rfl

theorem consPart_ne_nil (separator c : Char) (parts : List (List Char)) :
    consPart separator c parts ≠ [] := by
  cases parts <;> simp only [consPart] <;> split <;> simp

theorem split_ne_nil (separator : Char) (cs : List Char) : split separator cs ≠ [] := by
  cases cs with
  | nil => simp
  | cons c cs => exact consPart_ne_nil separator c _

theorem consPart_append {parts : List (List Char)} (h : parts ≠ []) (separator c : Char)
    (more : List (List Char)) :
    consPart separator c (parts ++ more) = consPart separator c parts ++ more := by
  cases parts with
  | nil => exact absurd rfl h
  | cons part parts =>
    simp only [List.cons_append, consPart]
    split <;> rfl

theorem length_consPart {parts : List (List Char)} (h : parts ≠ []) (separator c : Char) :
    (consPart separator c parts).length = parts.length + if c = separator then 1 else 0 := by
  cases parts with
  | nil => exact absurd rfl h
  | cons part parts =>
    simp only [consPart]
    split <;> simp

/-- A separator divides the parts in front of it from those behind it. -/
theorem split_append (separator : Char) (cs ds : List Char) :
    split separator (cs ++ separator :: ds) = split separator cs ++ split separator ds := by
  induction cs with
  | nil =>
    rw [List.nil_append, split_cons, split_nil]
    cases h : split separator ds with
    | nil => exact absurd h (split_ne_nil separator ds)
    | cons part parts => simp [consPart]
  | cons c cs ih =>
    rw [List.cons_append, split_cons, ih, consPart_append (split_ne_nil separator cs), split_cons]

/-- There is one part more than there are separators. -/
theorem length_split (separator : Char) (cs : List Char) :
    (split separator cs).length = cs.count separator + 1 := by
  induction cs with
  | nil => rfl
  | cons c cs ih =>
    rw [split_cons, length_consPart (split_ne_nil separator cs), ih, List.count_cons]
    simp only [beq_iff_eq]
    omega

/-- A text without separators is one part. -/
theorem split_eq_singleton {separator : Char} {cs : List Char} (h : separator ∉ cs) :
    split separator cs = [cs] := by
  induction cs with
  | nil => rfl
  | cons c cs ih =>
    simp only [List.mem_cons, not_or] at h
    rw [split_cons, ih h.2, consPart, if_neg (Ne.symm h.1)]

end LineArithmetic.Text
