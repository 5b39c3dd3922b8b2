import LineArithmetic.Text.Split

/-!
# Lines

A text is split into lines at its line feeds and at nothing else, so a text
without one is a single line and every line feed starts a new one.  A text
that arrives from outside may have its line breaks unified first: a carriage
return, alone or before a line feed, becomes one line feed.  `LineBreaks` says
whether a text is read in this way.

A terminal knows more line breaks than that; `lastLine` is what stands behind
all of them.
-/

namespace LineArithmetic.Text

/-- The lines of a text. -/
def lines (text : String) : List String :=
  splitText '\n' text

/-- One character further to the left: a carriage return in front of a line
feed vanishes into it, and any other one becomes a line feed. -/
def consUnified (c : Char) (state : List Char × Bool) : List Char × Bool :=
  if c = '\r' then (if state.2 then state.1 else '\n' :: state.1, false)
  else (c :: state.1, c == '\n')

/-- A text whose line breaks are line feeds. -/
def unifyLineBreaks (cs : List Char) : List Char :=
  (cs.foldr consUnified ([], false)).1

/-- What reading a text does to its line breaks. -/
inductive LineBreaks where
  | kept
  | unified
  deriving DecidableEq, Repr

/-- The characters that are read. -/
def LineBreaks.apply : LineBreaks → List Char → List Char
  | kept, cs => cs
  | unified, cs => unifyLineBreaks cs

/-- Whether a character ends a line on a terminal. -/
def isLineBreak (c : Char) : Bool :=
  let n := c.toNat
  (0x0A ≤ n && n ≤ 0x0D) || (0x1C ≤ n && n ≤ 0x1E) || n == 0x85 || n == 0x2028 || n == 0x2029

/-- The last line of a text that is followed by a line feed. -/
def lastLine (text : String) : String :=
  let cs := (unifyLineBreaks (text.toList ++ ['\n'])).dropLast
  String.ofList (cs.reverse.takeWhile fun c => !isLineBreak c).reverse

/-- A line feed divides the lines in front of it from those behind it. -/
theorem lines_append (a b : String) : lines (a ++ "\n" ++ b) = lines a ++ lines b := by
  have htext : (a ++ "\n" ++ b).toList = a.toList ++ '\n' :: b.toList := by simp
  rw [lines, splitText, htext, split_append, List.map_append]
  rfl

/-- There is one line more than there are line feeds. -/
theorem length_lines (text : String) : (lines text).length = text.toList.count '\n' + 1 := by
  rw [lines, splitText, List.length_map, length_split]

/-- A text without line feeds is one line. -/
theorem lines_eq_singleton {text : String} (h : '\n' ∉ text.toList) : lines text = [text] := by
  rw [lines, splitText, split_eq_singleton h, List.map_singleton, String.ofList_toList]

end LineArithmetic.Text
