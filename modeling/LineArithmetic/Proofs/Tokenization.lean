import LineArithmetic.Proofs.Compilation
import LineArithmetic.Proofs.LineBreaks

/-!
# Words and the gaps between them

A text is put together from words and gaps: a gap in front, then words with a gap
behind each of them.  Words are not empty and hold no blanks, gaps hold nothing
else, and of the gaps behind words only the last may be empty (`IsCut`).  Every
text has such a cut (`exists_isCut`), and the words of any cut are the words that
are read off (`IsCut.words_eq`), so there is one list of words for a text.

The tokens of a line are these words with their classes.  `lineTokens_cut` states
this for all lines, and what follows from it: gaps between two texts, blanks around
a text and a single space between two words have no influence on the tokens.
-/

namespace LineArithmetic

namespace Text

/-! ## Blanks -/

/-- The code points of the blanks: five controls that move the cursor, four that
separate records, the space, the next line control and the spaces and separators of
the other scripts. -/
def blankCodePoints : List Nat :=
  [0x09, 0x0A, 0x0B, 0x0C, 0x0D, 0x1C, 0x1D, 0x1E, 0x1F, 0x20, 0x85, 0xA0, 0x1680,
    0x2000, 0x2001, 0x2002, 0x2003, 0x2004, 0x2005, 0x2006, 0x2007, 0x2008, 0x2009, 0x200A,
    0x2028, 0x2029, 0x202F, 0x205F, 0x3000]

theorem isBlank_iff {c : Char} : isBlank c = true ↔ c.toNat ∈ blankCodePoints := by
  simp only [isBlank, blankCodePoints, Bool.or_eq_true, Bool.and_eq_true, decide_eq_true_eq,
    beq_iff_eq, List.mem_cons, List.not_mem_nil, or_false]
  omega

theorem isBlank_eq_false_iff {c : Char} : isBlank c = false ↔ c.toNat ∉ blankCodePoints := by
  rw [← isBlank_iff, Bool.not_eq_true]

/-- Nothing but blanks. -/
def IsGap (cs : List Char) : Prop :=
  ∀ c ∈ cs, c.toNat ∈ blankCodePoints

instance (cs : List Char) : Decidable (IsGap cs) :=
  decidable_of_iff (cs.all isBlank = true) <| by
    simp only [IsGap, List.all_eq_true, isBlank_iff]

/-- One or more characters, none of them a blank. -/
structure IsRun (cs : List Char) : Prop where
  ne_nil : cs ≠ []
  notMem : ∀ c ∈ cs, c.toNat ∉ blankCodePoints

instance (cs : List Char) : Decidable (IsRun cs) :=
  decidable_of_iff (cs ≠ [] ∧ (cs.all fun c => !isBlank c) = true) <| by
    simp only [List.all_eq_true, Bool.not_eq_true', isBlank_eq_false_iff]
    exact ⟨fun h => ⟨h.1, h.2⟩, fun h => ⟨h.1, h.2⟩⟩

/-! ## Words of texts with gaps -/

section Gaps

variable {gap w : List Char}

theorem words_eq_singleton_of_isRun (h : IsRun w) : words w = [w] :=
  words_eq_singleton h.ne_nil fun c hc => isBlank_eq_false_iff.mpr (h.notMem c hc)

theorem isRun_of_mem_words {cs : List Char} (h : w ∈ words cs) : IsRun w :=
  ⟨ne_nil_of_mem_words w h, fun _ hc => isBlank_eq_false_iff.mp (isBlank_of_mem_words h hc)⟩

/-- A gap parts the words in front of it from those behind it. -/
theorem words_append_gap_append (h : IsGap gap) (hne : gap ≠ []) (cs ds : List Char) :
    words (cs ++ gap ++ ds) = words cs ++ words ds := by
  obtain ⟨b, more, rfl⟩ := List.exists_cons_of_ne_nil hne
  have hb : isBlank b = true := isBlank_iff.mpr (h b List.mem_cons_self)
  have hmore : IsGap more := fun c hc => h c (List.mem_cons_of_mem b hc)
  have hfront : words (more ++ ds) = words ds := by
    clear h hne
    induction more with
    | nil => rfl
    | cons c more ih =>
      have hc : isBlank c = true := isBlank_iff.mpr (hmore c List.mem_cons_self)
      rw [List.cons_append, words_cons_of_isBlank hc]
      exact ih fun d hd => hmore d (List.mem_cons_of_mem c hd)
  rw [List.append_assoc, List.cons_append, words_append_cons hb, hfront]

/-- A gap in front of a text belongs to none of its words. -/
theorem words_gap_append (h : IsGap gap) (cs : List Char) : words (gap ++ cs) = words cs := by
  by_cases hne : gap = []
  · rw [hne, List.nil_append]
  · exact words_append_gap_append h hne [] cs

end Gaps

/-! ## Cuts -/

/-- A word and the gap behind it. -/
structure Piece where
  word : List Char
  gap : List Char

/-- The text of a word and the gap behind it. -/
def Piece.text (piece : Piece) : List Char :=
  piece.word ++ piece.gap

/-- Words that stand apart: only the last gap may be empty. -/
@[mk_iff]
structure AreApart (pieces : List Piece) : Prop where
  isRun : ∀ piece ∈ pieces, IsRun piece.word
  isGap : ∀ piece ∈ pieces, IsGap piece.gap
  gap_ne_nil : ∀ piece ∈ pieces.dropLast, piece.gap ≠ []

/-- A text that is a gap and words that stand apart. -/
structure IsCut (cs front : List Char) (pieces : List Piece) : Prop extends AreApart pieces where
  isGap_front : IsGap front
  eq_append : cs = front ++ pieces.flatMap Piece.text

section Cuts

variable {piece : Piece} {pieces : List Piece}

theorem areApart_cons_iff : AreApart (piece :: pieces) ↔
    IsRun piece.word ∧ IsGap piece.gap ∧ (pieces ≠ [] → piece.gap ≠ []) ∧ AreApart pieces := by
  cases pieces with
  | nil => simp [areApart_iff]
  | cons next pieces =>
    have hne : next :: pieces ≠ [] := List.cons_ne_nil next pieces
    simp only [areApart_iff, List.dropLast_cons_cons, List.forall_mem_cons]
    tauto

theorem AreApart.words_flatMap (h : AreApart pieces) :
    words (pieces.flatMap Piece.text) = pieces.map Piece.word := by
  induction pieces with
  | nil => rfl
  | cons piece pieces ih =>
    obtain ⟨hrun, hgap, hnext, hrest⟩ := areApart_cons_iff.mp h
    have hword : words piece.word = [piece.word] := words_eq_singleton_of_isRun hrun
    rw [List.flatMap_cons, List.map_cons, Piece.text]
    by_cases hne : piece.gap = []
    · -- Only the last word has no gap behind it.
      have hlast : pieces = [] := by
        by_contra hpieces
        exact hnext hpieces hne
      rw [hne, hlast, List.flatMap_nil, List.append_nil, List.append_nil, hword]
      rfl
    · rw [words_append_gap_append hgap hne, hword, ih hrest]
      rfl

/-- The words of a cut are those that are read off its text. -/
theorem IsCut.words_eq {cs front : List Char} (h : IsCut cs front pieces) :
    words cs = pieces.map Piece.word := by
  rw [h.eq_append, words_gap_append h.isGap_front, h.words_flatMap]

theorem isRun_cons {c : Char} {w : List Char} (hc : c.toNat ∉ blankCodePoints)
    (hw : ∀ d ∈ w, d.toNat ∉ blankCodePoints) : IsRun (c :: w) :=
  ⟨List.cons_ne_nil c w, List.forall_mem_cons.mpr ⟨hc, hw⟩⟩

/-- A character in front of a cut is a blank and stands in the first gap, or it
starts a word: the first word if no gap is in front of it, a new one otherwise. -/
theorem IsCut.exists_cons {cs front : List Char} (h : IsCut cs front pieces) (c : Char) :
    ∃ front' pieces', IsCut (c :: cs) front' pieces' := by
  by_cases hc : c.toNat ∈ blankCodePoints
  · have hfront : IsGap (c :: front) := List.forall_mem_cons.mpr ⟨hc, h.isGap_front⟩
    exact ⟨c :: front, pieces, h.toAreApart, hfront, by rw [h.eq_append, List.cons_append]⟩
  · by_cases hnew : pieces ≠ [] → front ≠ []
    · have hrun : IsRun [c] := isRun_cons hc (List.forall_mem_nil _)
      refine ⟨[], ⟨[c], front⟩ :: pieces, ?_, List.forall_mem_nil _, ?_⟩
      · exact areApart_cons_iff.mpr ⟨hrun, h.isGap_front, hnew, h.toAreApart⟩
      · rw [h.eq_append]
        rfl
    · obtain ⟨hne, hfront⟩ := Classical.not_imp.mp hnew
      obtain ⟨first, rest, rfl⟩ := List.exists_cons_of_ne_nil hne
      obtain ⟨hrun, hgap, hnext, hrest⟩ := areApart_cons_iff.mp h.toAreApart
      refine ⟨[], ⟨c :: first.word, first.gap⟩ :: rest, ?_, List.forall_mem_nil _, ?_⟩
      · exact areApart_cons_iff.mpr ⟨isRun_cons hc hrun.notMem, hgap, hnext, hrest⟩
      · rw [h.eq_append, not_not.mp hfront]
        rfl

/-- Every text has a cut. -/
theorem exists_isCut (cs : List Char) : ∃ front pieces, IsCut cs front pieces := by
  induction cs with
  | nil => exact ⟨[], [], ⟨nofun, nofun, nofun⟩, nofun, rfl⟩
  | cons c cs ih =>
    obtain ⟨front, pieces, h⟩ := ih
    exact h.exists_cons c

end Cuts

/-! ## Words that are put together again -/

/-- Words with a single space between them are read off again. -/
theorem words_intercalate {ws : List (List Char)} (h : ∀ w ∈ ws, IsRun w) :
    words ([' '].intercalate ws) = ws := by
  induction ws with
  | nil => rfl
  | cons w ws ih =>
    obtain ⟨hrun, hrest⟩ := List.forall_mem_cons.mp h
    have hword : words w = [w] := words_eq_singleton_of_isRun hrun
    cases ws with
    | nil => rw [List.intercalate_singleton, hword]
    | cons v ws =>
      rw [List.intercalate_cons_cons, words_append_gap_append (by decide) (by decide), hword,
        ih hrest]
      rfl

end Text

/-! ## Tokens -/

section Lines

open Text

theorem ofText_getD (line : Option String) : Token.ofText (line.getD "") = lineTokens line := by
  rw [lineTokens, Token.ofText, Token.ofText, trimmedLine, String.toList_ofList, words_trim]

theorem map_text_lineTokens (line : Option String) :
    (lineTokens line).map Token.text = (words (line.getD "").toList).map String.ofList := by
  rw [← ofText_getD, Token.ofText, List.map_map]
  rfl

/-- Lines with the same words have the same tokens. -/
theorem lineTokens_congr {line line' : Option String}
    (h : words (line.getD "").toList = words (line'.getD "").toList) :
    lineTokens line = lineTokens line' := by
  rw [← ofText_getD, ← ofText_getD, Token.ofText, Token.ofText, h]

theorem lineTokens_append_gap_append (a b : String) {gap : String} (hgap : IsGap gap.toList)
    (hne : gap ≠ "") :
    lineTokens (some (a ++ gap ++ b)) = lineTokens (some a) ++ lineTokens (some b) := by
  have hnonempty : gap.toList ≠ [] := fun hnil => hne (String.toList_eq_nil_iff.mp hnil)
  rw [lineTokens_eq, lineTokens_eq, lineTokens_eq, String.toList_append, String.toList_append,
    words_append_gap_append hgap hnonempty, List.map_append]

/-- The texts of the tokens, with single spaces between them, have the same tokens. -/
theorem lineTokens_intercalate (line : Option String) :
    lineTokens (some (" ".intercalate ((lineTokens line).map Token.text))) = lineTokens line := by
  apply lineTokens_congr
  rw [map_text_lineTokens, Option.getD_some, String.toList_intercalate, List.map_map]
  have hid : String.toList ∘ String.ofList = id := funext fun _ => String.toList_ofList
  rw [hid, List.map_id]
  exact words_intercalate fun w => isRun_of_mem_words

/-- The tokens of a line are its words.

The texts of the tokens are the one list of words that the line is put together from,
with gaps in front, behind and between them; no line at all is an empty one.  So a
gap parts the tokens of what stands on its two sides, the blanks around a line make no
difference, whether they are taken off beforehand or not at all, and the texts of the
tokens put together with single spaces have the same tokens. -/
theorem lineTokens_cut (line : Option String) :
    (∀ texts : List String, (lineTokens line).map Token.text = texts ↔
      ∃ front pieces, IsCut (line.getD "").toList front pieces ∧
        pieces.map (fun piece => String.ofList piece.word) = texts) ∧
    (∀ a gap b : String, IsGap gap.toList → gap ≠ "" →
      lineTokens (some (a ++ gap ++ b)) = lineTokens (some a) ++ lineTokens (some b)) ∧
    lineTokens (some (trimmedLine line)) = lineTokens line ∧
    Token.ofText (line.getD "") = lineTokens line ∧
    lineTokens (some (" ".intercalate ((lineTokens line).map Token.text))) = lineTokens line := by
  refine ⟨fun texts => ?_, fun a gap b hgap hne => lineTokens_append_gap_append a b hgap hne, ?_,
    ofText_getD line, lineTokens_intercalate line⟩
  · rw [map_text_lineTokens]
    constructor
    · rintro rfl
      obtain ⟨front, pieces, h⟩ := exists_isCut (line.getD "").toList
      refine ⟨front, pieces, h, ?_⟩
      rw [h.words_eq, List.map_map]
      rfl
    · rintro ⟨front, pieces, h, rfl⟩
      rw [h.words_eq, List.map_map]
      rfl
  · apply lineTokens_congr
    rw [Option.getD_some, trimmedLine, String.toList_ofList, words_trim]

/-- A line with blanks of several scripts, and the same blanks between two lines. -/
theorem lineTokens_mixedGaps :
    (lineTokens (some " 12\t+\u3000\u00a0x")).map Token.text = ["12", "+", "x"] ∧
    IsGap "\u2003\t".toList ∧ "\u2003\t" ≠ "" ∧
    lineTokens (some ("1 +" ++ "\u2003\t" ++ "x")) =
      lineTokens (some "1 +") ++ lineTokens (some "x") := by
  obtain ⟨htexts, hgaps, -⟩ := lineTokens_cut (some " 12\t+\u3000\u00a0x")
  refine ⟨(htexts _).mpr ?_, by decide, by decide, hgaps "1 +" _ "x" (by decide) (by decide)⟩
  refine ⟨[' '], [⟨['1', '2'], ['\t']⟩, ⟨['+'], ['\u3000', '\u00a0']⟩, ⟨['x'], []⟩],
    ⟨⟨?_, ?_, ?_⟩, ?_, ?_⟩, ?_⟩ <;> decide

end Lines

end LineArithmetic
