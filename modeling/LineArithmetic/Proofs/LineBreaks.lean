import LineArithmetic.Proofs.Documents

/-!
# Line breaks

What becomes of the lines of a text when it arrives from outside.  A blank only
parts the words on its two sides (`words_append_cons`).  A carriage return in front
of a line feed is a blank at the end of its line, and blanks at the ends of a line
belong to no word (`words_trim`).  So unifying the line breaks
of a text in which every carriage return stands there changes lines
(`forall₂_split_unifyLineBreaks`) but no tokens, and the document compiles to the
same trees (`documentNodes_unifyLineBreaks`).

The other way round, texts that are put one under the other are the lines of
what comes out (`lines_join`), as long as none of them holds a line break; such a
text is called `Unbroken`.
-/

namespace LineArithmetic

namespace Text

/-! ## Words and the blanks around them -/

section Words

variable {b : Char}

theorem closeWord_append (word : List Char) (others more : List (List Char)) :
    closeWord word (others ++ more) = closeWord word others ++ more := by
  unfold closeWord
  split <;> rfl

/-- Words that are there already stay behind those that are collected. -/
theorem foldr_collect_onto (cs : List Char) (others : List (List Char)) :
    cs.foldr collect ([], others) =
      ((cs.foldr collect ([], [])).1, (cs.foldr collect ([], [])).2 ++ others) := by
  induction cs with
  | nil => rfl
  | cons c cs ih =>
    rw [List.foldr_cons, List.foldr_cons, ih]
    by_cases hc : isBlank c = true
    · simp only [collect, if_pos hc, closeWord_append]
    · simp only [collect, if_neg hc]

/-- A blank parts the words in front of it from those behind it. -/
theorem words_append_cons (h : isBlank b = true) (cs ds : List Char) :
    words (cs ++ b :: ds) = words cs ++ words ds := by
  have hblank : (b :: ds).foldr collect ([], []) = ([], words ds) := by
    rw [List.foldr_cons, collect, if_pos h]
    rfl
  rw [words, List.foldr_append, hblank, foldr_collect_onto]
  exact closeWord_append _ _ _

theorem words_cons_of_isBlank (h : isBlank b = true) (cs : List Char) :
    words (b :: cs) = words cs :=
  words_append_cons h [] cs

theorem words_append_of_isBlank (h : isBlank b = true) (cs : List Char) :
    words (cs ++ [b]) = words cs := by
  rw [words_append_cons h, words_nil, List.append_nil]

/-- A text without words consists of blanks. -/
theorem words_eq_nil_iff {cs : List Char} : words cs = [] ↔ ∀ c ∈ cs, isBlank c = true := by
  induction cs with
  | nil => simp
  | cons c cs ih =>
    by_cases hc : isBlank c = true
    · rw [words_cons_of_isBlank hc, ih, List.forall_mem_cons]
      exact (and_iff_right hc).symm
    · have hword : words (c :: cs) ≠ [] := by simp [words, collect, hc, closeWord]
      exact iff_of_false hword fun h => hc (h c List.mem_cons_self)

theorem words_dropWhile_isBlank (cs : List Char) :
    words (cs.dropWhile isBlank) = words cs := by
  induction cs with
  | nil => rfl
  | cons c cs ih =>
    by_cases hc : isBlank c = true
    · rw [List.dropWhile_cons_of_pos hc, ih, words_cons_of_isBlank hc]
    · rw [List.dropWhile_cons_of_neg hc]

theorem words_reverse_dropWhile_isBlank (cs : List Char) :
    words (cs.dropWhile isBlank).reverse = words cs.reverse := by
  induction cs with
  | nil => rfl
  | cons c cs ih =>
    by_cases hc : isBlank c = true
    · rw [List.dropWhile_cons_of_pos hc, ih, List.reverse_cons, words_append_of_isBlank hc]
    · rw [List.dropWhile_cons_of_neg hc]

/-- The blanks at the two ends of a text belong to no word. -/
theorem words_trim (cs : List Char) : words (trim isBlank cs) = words cs := by
  rw [trim, words_reverse_dropWhile_isBlank, List.reverse_reverse, words_dropWhile_isBlank]

theorem isBlank_of_mem_closeWord {word : List Char} {others : List (List Char)}
    (hword : ∀ c ∈ word, isBlank c = false) (hothers : ∀ w ∈ others, ∀ c ∈ w, isBlank c = false) :
    ∀ w ∈ closeWord word others, ∀ c ∈ w, isBlank c = false := by
  unfold closeWord
  split
  · exact hothers
  · simpa only [List.mem_cons, forall_eq_or_imp] using ⟨hword, hothers⟩

/-- Words hold no blanks. -/
theorem isBlank_of_mem_words {cs w : List Char} (hw : w ∈ words cs) {c : Char} (hc : c ∈ w) :
    isBlank c = false := by
  have hstate : (∀ c ∈ (cs.foldr collect ([], [])).1, isBlank c = false) ∧
      ∀ w ∈ (cs.foldr collect ([], [])).2, ∀ c ∈ w, isBlank c = false := by
    clear hw
    induction cs with
    | nil => simp
    | cons c cs ih =>
      rw [List.foldr_cons, collect]
      by_cases hblank : isBlank c = true
      · rw [if_pos hblank]
        exact ⟨List.forall_mem_nil _, isBlank_of_mem_closeWord ih.1 ih.2⟩
      · rw [if_neg hblank]
        refine ⟨?_, ih.2⟩
        simpa only [List.mem_cons, forall_eq_or_imp] using
          ⟨Bool.eq_false_iff.mpr hblank, ih.1⟩
  exact isBlank_of_mem_closeWord hstate.1 hstate.2 w hw c hc

end Words

/-! ## Unified line breaks -/

/-- Every carriage return stands in front of a line feed. -/
def ReturnsEndLines (cs : List Char) : Prop :=
  ∀ i : Nat, cs[i]? = some '\r' → cs[i + 1]? = some '\n'

theorem ReturnsEndLines.tail {c : Char} {cs : List Char} (h : ReturnsEndLines (c :: cs)) :
    ReturnsEndLines cs := by
  intro i hi
  exact h (i + 1) hi

theorem foldr_consUnified_snd (cs : List Char) :
    (cs.foldr consUnified ([], false)).2 = (cs.head? == some '\n') := by
  cases cs with
  | nil => rfl
  | cons c cs =>
    rw [List.foldr_cons, consUnified]
    split
    · subst c
      rfl
    · rfl

theorem unifyLineBreaks_cons {c : Char} (h : c ≠ '\r') (cs : List Char) :
    unifyLineBreaks (c :: cs) = c :: unifyLineBreaks cs := by
  rw [unifyLineBreaks, List.foldr_cons, consUnified, if_neg h, unifyLineBreaks]

theorem unifyLineBreaks_return (cs : List Char) :
    unifyLineBreaks ('\r' :: '\n' :: cs) = '\n' :: unifyLineBreaks cs := by
  have hnext : (List.foldr consUnified ([], false) ('\n' :: cs)).2 = true :=
    foldr_consUnified_snd ('\n' :: cs)
  rw [unifyLineBreaks, List.foldr_cons, consUnified, if_pos rfl, hnext, if_pos rfl,
    ← unifyLineBreaks, unifyLineBreaks_cons (by decide)]

/-- A line before and after unifying line breaks. -/
def SameButReturn (unified line : List Char) : Prop :=
  line = unified ∨ line = unified ++ ['\r']

theorem SameButReturn.cons {unified line : List Char} (h : SameButReturn unified line) (c : Char) :
    SameButReturn (c :: unified) (c :: line) := by
  rcases h with rfl | rfl
  · exact Or.inl rfl
  · exact Or.inr rfl

theorem forall₂_consPart {parts parts' : List (List Char)}
    (h : List.Forall₂ SameButReturn parts parts') (separator c : Char) :
    List.Forall₂ SameButReturn (consPart separator c parts) (consPart separator c parts') := by
  have hsame : ∀ line, SameButReturn line line := fun _ => Or.inl rfl
  by_cases hc : c = separator
  · cases h with
    | nil =>
      rw [consPart, if_pos hc]
      exact .cons (hsame []) (.cons (hsame []) .nil)
    | cons hpart hparts =>
      rw [consPart, consPart, if_pos hc, if_pos hc]
      exact .cons (hsame []) (.cons hpart hparts)
  · cases h with
    | nil =>
      rw [consPart, if_neg hc]
      exact .cons (hsame [c]) .nil
    | cons hpart hparts =>
      rw [consPart, consPart, if_neg hc, if_neg hc]
      exact .cons (hpart.cons c) hparts

theorem split_cons_self (separator : Char) (cs : List Char) :
    split separator (separator :: cs) = [] :: split separator cs := by
  have h := split_append separator [] cs
  rwa [List.nil_append, split_nil] at h

/-- Unifying line breaks takes a carriage return off the ends of lines and
changes nothing else. -/
theorem forall₂_split_unifyLineBreaks {cs : List Char} (h : ReturnsEndLines cs) :
    List.Forall₂ SameButReturn (split '\n' (unifyLineBreaks cs)) (split '\n' cs) := by
  induction cs with
  | nil => exact .cons (Or.inl rfl) .nil
  | cons c cs ih =>
    have hrest := ih h.tail
    by_cases hc : c = '\r'
    · subst hc
      have hnext : cs[0]? = some '\n' := h 0 rfl
      cases cs with
      | nil => cases hnext
      | cons d cs =>
        obtain rfl : d = '\n' := Option.some.inj hnext
        rw [unifyLineBreaks_cons (by decide), split_cons_self, split_cons_self] at hrest
        rw [unifyLineBreaks_return, split_cons_self, split_cons, split_cons_self]
        cases hrest with
        | cons _ hrest => exact .cons (Or.inr rfl) hrest
    · rw [unifyLineBreaks_cons hc, split_cons, split_cons]
      exact forall₂_consPart hrest '\n' c

/-! ## Texts without line breaks -/

/-- Whether a text holds no line break. -/
def Unbroken (text : String) : Prop :=
  ∀ c ∈ text.toList, isLineBreak c = false

instance (text : String) : Decidable (Unbroken text) :=
  decidable_of_iff (text.toList.all fun c => !isLineBreak c) (by simp [Unbroken])

theorem isBlank_of_isLineBreak {c : Char} (h : isLineBreak c = true) : isBlank c = true := by
  simp only [isLineBreak, isBlank, Bool.or_eq_true, Bool.and_eq_true, decide_eq_true_eq,
    beq_iff_eq] at h ⊢
  omega

theorem IsNumeric.isLineBreak_eq {c : Char} (h : IsNumeric c) : isLineBreak c = false := by
  have hbounds := h.toNat_bounds
  simp only [isLineBreak, Bool.or_eq_false_iff, Bool.and_eq_false_iff, decide_eq_false_iff_not,
    beq_eq_false_iff_ne]
  omega

theorem Unbroken.append {a b : String} (ha : Unbroken a) (hb : Unbroken b) :
    Unbroken (a ++ b) := by
  intro c hc
  rw [String.toList_append, List.mem_append] at hc
  exact hc.elim (ha c) (hb c)

theorem Unbroken.newline_notMem {text : String} (h : Unbroken text) : '\n' ∉ text.toList := by
  intro hmem
  exact absurd (h '\n' hmem) (by decide)

/-- Texts that are put one under the other are the lines of what comes out, with
an empty line behind the last one. -/
theorem lines_join {texts : List String} (h : ∀ text ∈ texts, '\n' ∉ text.toList) :
    lines (String.join (texts.map fun text => text ++ "\n")) = texts ++ [""] := by
  induction texts with
  | nil => rfl
  | cons text texts ih =>
    simp only [List.mem_cons, forall_eq_or_imp] at h
    rw [List.map_cons, String.join_cons, lines_append, lines_eq_singleton h.1, ih h.2]
    rfl

end Text

/-! ## Documents from outside -/

theorem lineTokens_eq (line : String) : lineTokens (some line) =
    (Text.words line.toList).map fun word => Token.classify (String.ofList word) := by
  rw [lineTokens, Token.ofText, trimmedLine, Option.getD_some, String.toList_ofList,
    Text.words_trim]

/-- The texts of tokens hold no blanks. -/
theorem isBlank_of_mem_lineTokens {line : String} {t : Token} (h : t ∈ lineTokens (some line))
    {c : Char} (hc : c ∈ t.text.toList) : Text.isBlank c = false := by
  rw [lineTokens_eq] at h
  obtain ⟨word, hword, rfl⟩ := List.mem_map.mp h
  rw [Token.text_classify, String.toList_ofList] at hc
  exact Text.isBlank_of_mem_words hword hc

/-- A carriage return at the end of a line belongs to none of its tokens. -/
theorem lineTokens_of_sameButReturn {unified line : List Char}
    (h : Text.SameButReturn unified line) :
    lineTokens (some (String.ofList unified)) = lineTokens (some (String.ofList line)) := by
  rw [lineTokens_eq, lineTokens_eq, String.toList_ofList, String.toList_ofList]
  rcases h with rfl | rfl
  · rfl
  · rw [Text.words_append_of_isBlank (by decide)]

theorem lineNode_congr {line line' : String}
    (h : lineTokens (some line) = lineTokens (some line')) (number : Int) :
    lineNode line number = lineNode line' number := by
  simp only [lineNode, compileLine, h]

/-- Lines with the same tokens have the same trees. -/
theorem numberedNodes_congr {lines lines' : List String}
    (h : List.Forall₂ (fun a b => lineTokens (some a) = lineTokens (some b)) lines lines')
    (first : Nat) : numberedNodes lines first = numberedNodes lines' first := by
  unfold numberedNodes
  induction h generalizing first with
  | nil => rfl
  | cons hline _ ih =>
    simp only [List.zipIdx_cons, List.map_cons, ih, lineNode_congr hline]

/-- Unifying the line breaks of a document changes none of its trees. -/
theorem documentNodes_unifyLineBreaks {document : String}
    (h : Text.ReturnsEndLines document.toList) :
    documentNodes (String.ofList (Text.unifyLineBreaks document.toList)) =
      documentNodes document := by
  refine numberedNodes_congr ?_ 1
  rw [Text.lines, Text.lines, Text.splitText, Text.splitText, String.toList_ofList,
    List.forall₂_map_left_iff, List.forall₂_map_right_iff]
  exact (Text.forall₂_split_unifyLineBreaks h).imp fun _ _ => lineTokens_of_sameButReturn

end LineArithmetic
