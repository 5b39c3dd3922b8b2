import LineArithmetic.Proofs.Json.Numbers
import LineArithmetic.Proofs.Json.Strings

/-!
# JSON is read

Whatever spells a value is read as that value (`read_of_spells`), as long as the
reader is told to follow brackets deeply enough and integers are not too long, which is
what `Readable` says.  The induction is on the spelling, and `Reads` is what it proves
of a part: the reader takes the characters of the part and leaves what follows.  Each
rule of the grammar is one lemma.

Every character pays for two steps, so `Reads` asks for fuel that is twice the number
of characters, and for one step more where a list is opened.
-/

namespace LineArithmetic.Json

open Text

/-- What can be read with brackets up to a depth inside one another. -/
inductive Readable : Nat → Part → Prop where
  | null {depth : Nat} : Readable depth (.value .null)
  | bool {depth : Nat} (b : Bool) : Readable depth (.value (.bool b))
  | int {depth : Nat} {n : Int} (h : n.natAbs < 10 ^ digitLimit) : Readable depth (.value (.int n))
  | float {depth : Nat} (x : Binary64) : Readable depth (.value (.float x))
  | string {depth : Nat} (points : List CodePoint) : Readable depth (.value (.string points))
  | array {depth : Nat} {list : List Json} (h : Readable depth (.items list)) :
      Readable (depth + 1) (.value (.array list))
  | object {depth : Nat} {list : List (List CodePoint × Json)}
      (h : Readable depth (.members list)) : Readable (depth + 1) (.value (.object list))
  | padded {depth : Nat} {json : Json} (h : Readable depth (.value json)) :
      Readable depth (.padded json)
  | items {depth : Nat} {list : List Json} (h : ∀ item ∈ list, Readable depth (.value item)) :
      Readable depth (.items list)
  | members {depth : Nat} {list : List (List CodePoint × Json)}
      (h : ∀ member ∈ list, Readable depth (.value member.2)) : Readable depth (.members list)

/-- What the reader makes of a part, whatever follows: it leaves just that, except that
the blanks behind a value may be left too. -/
def Reads (depth : Nat) (cs : List Char) : Part → Prop
  | .value json => ∀ fuel rest, 2 * cs.length ≤ fuel → EndsValue rest →
      value fuel depth (cs ++ rest) = .ok (json, rest)
  | .padded json => ∀ fuel rest, 2 * cs.length ≤ fuel → EndsValue rest →
      ∃ left, value fuel depth (skipSpace (cs ++ rest)) = .ok (json, left) ∧
        skipSpace left = skipSpace rest
  | .items list => ∀ fuel done rest, 2 * cs.length < fuel →
      items fuel depth done (skipSpace (cs ++ ']' :: rest)) =
        .ok (.array (done.reverse ++ list), rest)
  | .members list => ∀ fuel done rest, 2 * cs.length < fuel →
      members fuel depth done (skipSpace (cs ++ '}' :: rest)) =
        .ok (.object (done.reverse ++ list), rest)

/-! ## Blanks -/

section Blanks

variable {spaces cs rest : List Char} {c : Char}

theorem isSpace_of_mem (h : IsSpaces spaces) : ∀ c ∈ spaces, isSpace c = true := by
  intro c hc
  rcases h c hc with rfl | rfl | rfl | rfl <;> rfl

theorem skipSpace_append (h : IsSpaces spaces) (cs : List Char) :
    skipSpace (spaces ++ cs) = skipSpace cs :=
  List.dropWhile_append_of_pos (isSpace_of_mem h)

theorem skipSpace_cons (h : isSpace c = false) (cs : List Char) :
    skipSpace (c :: cs) = c :: cs :=
  List.dropWhile_cons_of_neg (by simp [h])

theorem EndsValue.spaces_append (hrest : EndsValue rest) (h : IsSpaces spaces) :
    EndsValue (spaces ++ rest) := by
  cases spaces with
  | nil => exact hrest
  | cons c spaces =>
    rintro d ⟨⟩
    exact Or.inl (isSpace_of_mem h c List.mem_cons_self)

theorem endsValue_comma (rest : List Char) : EndsValue (',' :: rest) := by
  rintro c ⟨⟩
  exact Or.inr (Or.inl rfl)

theorem endsValue_bracket (rest : List Char) : EndsValue (']' :: rest) := by
  rintro c ⟨⟩
  exact Or.inr (Or.inr (Or.inl rfl))

theorem endsValue_brace (rest : List Char) : EndsValue ('}' :: rest) := by
  rintro c ⟨⟩
  exact Or.inr (Or.inr (Or.inr rfl))

end Blanks

/-! ## How parts start -/

section Starts

variable {json : Json} {cs : List Char}

/-- A character with which a value can start. -/
def StartsValue (c : Char) : Prop :=
  c ∈ ['n', 't', 'f', '-', '"', '[', '{'] ∨ c.isDigit = true

theorem StartsValue.ne {c : Char} (h : StartsValue c) :
    isSpace c = false ∧ c ≠ ']' ∧ c ≠ '\uFEFF' := by
  rcases h with hmem | hdigit
  · simp only [List.mem_cons, List.not_mem_nil, or_false] at hmem
    rcases hmem with rfl | rfl | rfl | rfl | rfl | rfl | rfl <;> decide
  · have hspace : isSpace c = false := by
      simp only [isSpace, Bool.or_eq_false_iff, beq_eq_false_iff_ne]
      refine ⟨⟨⟨?_, ?_⟩, ?_⟩, ?_⟩ <;> rintro rfl <;> cases hdigit
    refine ⟨hspace, ?_, ?_⟩ <;> rintro rfl <;> cases hdigit

theorem startsValue_of_isDigits {cs : List Char} (h : IsDigits cs) (negative : Bool)
    (more : List Char) : ∃ c rest, minus negative ++ cs ++ more = c :: rest ∧ StartsValue c := by
  cases negative with
  | true => exact ⟨'-', cs ++ more, rfl, Or.inl (by decide)⟩
  | false =>
    obtain ⟨d, ds, rfl, hd⟩ := h.exists_cons
    exact ⟨d, ds ++ more, rfl, Or.inr hd⟩

theorem SpellsPart.starts (h : SpellsPart (.value json) cs) :
    ∃ c more, cs = c :: more ∧ StartsValue c := by
  cases h with
  | null | true | false => exact ⟨_, _, rfl, Or.inl (by decide)⟩
  | int hwhole hn =>
    rename_i negative whole
    have hstart := startsValue_of_isDigits hwhole.toIsDigits negative []
    rwa [List.append_nil] at hstart
  | float hwhole hfraction hexponent hpart hx =>
    rename_i negative whole digits fraction exponent power
    have hstart := startsValue_of_isDigits hwhole.toIsDigits negative (fraction ++ exponent)
    rwa [← List.append_assoc] at hstart
  | string hpoints h =>
    cases h with
    | quoted h => exact ⟨_, _, rfl, Or.inl (by decide)⟩
  | emptyArray h => exact ⟨_, _, rfl, Or.inl (by decide)⟩
  | array h => exact ⟨_, _, rfl, Or.inl (by decide)⟩
  | emptyObject h => exact ⟨_, _, rfl, Or.inl (by decide)⟩
  | object h => exact ⟨_, _, rfl, Or.inl (by decide)⟩

/-- Behind the blanks in front of it starts the value. -/
theorem SpellsPart.padded_starts (h : SpellsPart (.padded json) cs) (rest : List Char) :
    ∃ c more, skipSpace (cs ++ rest) = c :: more ∧ StartsValue c := by
  cases h with
  | padded hbefore h hafter =>
    obtain ⟨c, more, rfl, hc⟩ := h.starts
    rw [List.append_assoc, List.append_assoc, skipSpace_append hbefore, List.cons_append,
      skipSpace_cons hc.ne.1]
    exact ⟨c, _, rfl, hc⟩

theorem SpellsPart.items_start {list : List Json} (h : SpellsPart (.items list) cs)
    (rest : List Char) : ∃ c more, skipSpace (cs ++ rest) = c :: more ∧ StartsValue c := by
  cases h with
  | lastItem h => exact h.padded_starts rest
  | moreItems h hmore =>
    rw [List.append_assoc]
    exact h.padded_starts _

theorem SpellsPart.members_start {list : List (List CodePoint × Json)}
    (h : SpellsPart (.members list) cs) (rest : List Char) :
    ∃ more, skipSpace (cs ++ rest) = '"' :: more := by
  have hname : ∀ {name : String} {before cs : List Char} (more : List Char), IsSpaces before →
      SpellsText name cs → ∃ left, skipSpace (before ++ (cs ++ more)) = '"' :: left := by
    rintro name before - more hbefore ⟨hinside⟩
    rw [skipSpace_append hbefore]
    exact ⟨_, skipSpace_cons rfl _⟩
  cases h with
  | lastMember hpoints hbefore hcs hafter h =>
    simp only [List.append_assoc]
    exact hname _ hbefore hcs
  | moreMembers hpoints hbefore hcs hafter h hmore =>
    simp only [List.append_assoc]
    exact hname _ hbefore hcs

end Starts

/-! ## Values without brackets -/

section Scalars

variable {depth : Nat} {cs : List Char}

/-- What starts with no quote and no bracket is a word or a number. -/
theorem value_scalar {c : Char} (hquote : c ≠ '"') (hbrace : c ≠ '{') (hbracket : c ≠ '[')
    (fuel depth : Nat) (cs : List Char) :
    value (fuel + 1) depth (c :: cs) = scalar (c :: cs) := by
  rw [value]
  · exact fun _ heq => hquote (List.cons.inj heq).1
  · exact fun _ _ heq _ => hbrace (List.cons.inj heq).1
  · exact fun _ _ heq _ => hbracket (List.cons.inj heq).1
  · exact fun _ heq _ => hbrace (List.cons.inj heq).1
  · exact fun _ heq _ => hbracket (List.cons.inj heq).1

theorem after?_append (word : String) (rest : List Char) :
    after? word (word.toList ++ rest) = some rest := by
  rw [after?, if_pos (by simp), ← String.length_toList, List.drop_left]

/-- A text starts with no word whose first letter is another. -/
theorem after?_eq_none {word : String} {c : Char} (h : word.toList.head? ≠ some c)
    (hne : word.toList ≠ []) (cs : List Char) : after? word (c :: cs) = none := by
  obtain ⟨d, letters, hword⟩ := List.exists_cons_of_ne_nil hne
  have hd : d ≠ c := fun heq => h (by rw [hword, heq]; rfl)
  rw [after?, if_neg]
  simp [hword, hd]

theorem scalar_word (word : String) {json : Json} (h : (word, json) ∈ words)
    (rest : List Char) : scalar (word.toList ++ rest) = .ok (json, rest) := by
  have hread : words.findSome? (fun entry =>
      (after? entry.1 (word.toList ++ rest)).map fun left => (entry.2, left)) =
        some (json, rest) := by
    simp only [words, List.mem_cons, Prod.mk.injEq, List.not_mem_nil, or_false] at h
    rcases h with ⟨rfl, rfl⟩ | ⟨rfl, rfl⟩ | ⟨rfl, rfl⟩
    · rw [words, List.findSome?_cons, after?_append]
      rfl
    · have hnull : after? "null" ("true".toList ++ rest) = none :=
        after?_eq_none (by decide) (by decide) _
      simp only [words, List.findSome?_cons, hnull, after?_append, Option.map_none, Option.map_some]
    · have hnull : after? "null" ("false".toList ++ rest) = none :=
        after?_eq_none (by decide) (by decide) _
      have htrue : after? "true" ("false".toList ++ rest) = none :=
        after?_eq_none (by decide) (by decide) _
      simp only [words, List.findSome?_cons, hnull, htrue, after?_append, Option.map_none,
        Option.map_some]
  rw [scalar, hread]

/-- What starts with a digit, perhaps behind a sign, is no word. -/
theorem scalar_number {c : Char} {cs : List Char} (negative : Bool) (hc : c.isDigit = true) :
    scalar (minus negative ++ c :: cs) = number (minus negative ++ c :: cs) := by
  have hletter : ∀ d : Char, d.isDigit = false → d ≠ c := by
    rintro d hd rfl
    rw [hc] at hd
    cases hd
  have hnone : ∀ word ∈ words.map (·.1) ++ nonFiniteWords,
      after? word (minus negative ++ c :: cs) = none := by
    simp only [words, nonFiniteWords, List.map_cons, List.map_nil, List.cons_append, List.nil_append,
      List.forall_mem_cons]
    cases negative <;> simp [minus, after?, hletter]
  rw [List.forall_mem_append] at hnone
  have hwords : words.findSome? (fun entry =>
      (after? entry.1 (minus negative ++ c :: cs)).map fun left => (entry.2, left)) = none :=
    List.findSome?_eq_none_iff.mpr fun entry hentry =>
      Option.map_eq_none_iff.mpr (hnone.1 entry.1 (List.mem_map_of_mem hentry))
  have hfinite : nonFiniteWords.find? (fun word =>
      (after? word (minus negative ++ c :: cs)).isSome) = none :=
    List.find?_eq_none.mpr fun word hword => by simp [hnone.2 word hword]
  rw [scalar, hwords]
  simp only [hfinite]

/-- A word or a number is read if it starts like one. -/
theorem reads_scalar {json : Json} {c : Char} {cs : List Char}
    (hquote : c ≠ '"') (hbrace : c ≠ '{') (hbracket : c ≠ '[')
    (h : ∀ rest, EndsValue rest → scalar (c :: cs ++ rest) = .ok (json, rest)) :
    Reads depth (c :: cs) (.value json) := by
  intro fuel rest hfuel hrest
  rw [List.length_cons] at hfuel
  obtain ⟨fuel, rfl⟩ := Nat.exists_eq_add_one_of_ne_zero (show fuel ≠ 0 by omega)
  rw [List.cons_append, value_scalar hquote hbrace hbracket, ← List.cons_append, h rest hrest]

theorem reads_number {json : Json} {negative : Bool} {whole more : List Char}
    (hwhole : IsWhole whole)
    (h : ∀ rest, EndsValue rest →
      number (minus negative ++ (whole ++ more) ++ rest) = .ok (json, rest)) :
    Reads depth (minus negative ++ (whole ++ more)) (.value json) := by
  obtain ⟨d, ds, rfl, hd⟩ := hwhole.exists_cons
  have hscalar : ∀ rest, EndsValue rest →
      scalar (minus negative ++ (d :: ds ++ more) ++ rest) = .ok (json, rest) := by
    intro rest hrest
    have hnumber := h rest hrest
    rw [List.append_assoc] at hnumber ⊢
    rw [← hnumber]
    exact scalar_number negative hd
  have hne : ∀ c : Char, c.isDigit = false → d ≠ c := by
    rintro c hc rfl
    rw [hd] at hc
    cases hc
  cases negative with
  | true => exact reads_scalar (by decide) (by decide) (by decide) hscalar
  | false => exact reads_scalar (hne _ rfl) (hne _ rfl) (hne _ rfl) hscalar

theorem reads_string {text : String} (h : SpellsText text cs) :
    Reads depth cs (.value (.string (codePoints text))) := by
  intro fuel rest hfuel _
  cases h with
  | @quoted inside h =>
    simp only [List.length_append, List.length_cons] at hfuel
    obtain ⟨fuel, rfl⟩ := Nat.exists_eq_add_one_of_ne_zero (show fuel ≠ 0 by omega)
    have hsplit : '"' :: inside ++ ['"'] ++ rest = '"' :: (inside ++ '"' :: rest) := by simp
    rw [hsplit, value, stringBody_spellsChars h]
    rfl

end Scalars

/-! ## Lists -/

section Lists

variable {depth : Nat} {item : Json} {list : List Json} {member : List CodePoint × Json}
variable {entries : List (List CodePoint × Json)} {cs more spaces : List Char}

theorem reads_padded {json : Json} {before after : List Char} (hbefore : IsSpaces before)
    (hspelled : SpellsPart (.value json) cs) (hafter : IsSpaces after)
    (h : Reads depth cs (.value json)) :
    Reads depth (before ++ cs ++ after) (.padded json) := by
  intro fuel rest hfuel hrest
  obtain ⟨c, more, hcons, hc⟩ := hspelled.starts
  have hskip : skipSpace (before ++ cs ++ after ++ rest) = cs ++ (after ++ rest) := by
    rw [List.append_assoc, List.append_assoc, skipSpace_append hbefore, hcons, List.cons_append,
      skipSpace_cons hc.ne.1]
  have hlength : 2 * cs.length ≤ fuel := by
    simp only [List.length_append] at hfuel
    omega
  refine ⟨after ++ rest, ?_, skipSpace_append hafter rest⟩
  rw [hskip, h fuel _ hlength (hrest.spaces_append hafter)]

theorem reads_lastItem (h : Reads depth cs (.padded item)) : Reads depth cs (.items [item]) := by
  intro fuel done rest hfuel
  obtain ⟨fuel, rfl⟩ := Nat.exists_eq_add_one_of_ne_zero (show fuel ≠ 0 by omega)
  obtain ⟨left, hvalue, hleft⟩ := h fuel (']' :: rest) (by omega) (endsValue_bracket rest)
  rw [skipSpace_cons rfl] at hleft
  simp only [items, hvalue, hleft, List.reverse_cons]

theorem reads_moreItems (h : Reads depth cs (.padded item))
    (hmore : Reads depth more (.items list)) :
    Reads depth (cs ++ ',' :: more) (.items (item :: list)) := by
  intro fuel done rest hfuel
  simp only [List.length_append, List.length_cons] at hfuel
  obtain ⟨fuel, rfl⟩ := Nat.exists_eq_add_one_of_ne_zero (show fuel ≠ 0 by omega)
  obtain ⟨left, hvalue, hleft⟩ := h fuel (',' :: (more ++ ']' :: rest)) (by omega)
    (endsValue_comma _)
  rw [skipSpace_cons rfl] at hleft
  have hitems := hmore fuel (item :: done) rest (by omega)
  rw [List.append_assoc, List.cons_append]
  simp only [items, hvalue, hleft, hitems, List.reverse_cons, List.append_assoc,
    List.singleton_append]

/-- What the reader does behind the colon of a member. -/
def memberValue (fuel depth : Nat) (done : List (List CodePoint × Json)) (points : List CodePoint)
    (cs : List Char) : Except Fault (Json × List Char) :=
  match value fuel depth (skipSpace cs) with
  | .error fault => .error fault
  | .ok (member, rest) =>
    match skipSpace rest with
    | '}' :: rest => .ok (.object ((points, member) :: done).reverse, rest)
    | ',' :: rest => members fuel depth ((points, member) :: done) (skipSpace rest)
    | rest => failAt .expectingComma rest

/-- The name of a member is read, with the blanks around it. -/
theorem members_named {name : String} {before after : List Char} (hbefore : IsSpaces before)
    (hname : SpellsText name cs) (hafter : IsSpaces after) (fuel : Nat)
    (done : List (List CodePoint × Json)) (rest : List Char) :
    members (fuel + 1) depth done (skipSpace (before ++ cs ++ after ++ ':' :: rest)) =
      memberValue fuel depth done (codePoints name) rest := by
  cases hname with
  | @quoted inside h =>
    have hopen : skipSpace (before ++ ('"' :: inside ++ ['"']) ++ after ++ ':' :: rest) =
        '"' :: (inside ++ '"' :: (after ++ ':' :: rest)) := by
      rw [List.append_assoc, List.append_assoc, skipSpace_append hbefore, List.cons_append,
        List.cons_append, skipSpace_cons rfl]
      simp
    have hcolon : skipSpace (after ++ ':' :: rest) = ':' :: rest := by
      rw [skipSpace_append hafter, skipSpace_cons rfl]
    rw [hopen, members, stringBody_spellsChars h]
    simp only [hcolon]
    rfl

theorem reads_lastMember {name : String} {json : Json} {before after : List Char}
    (hbefore : IsSpaces before) (hname : SpellsText name cs) (hafter : IsSpaces after)
    (h : Reads depth more (.padded json)) :
    Reads depth (before ++ cs ++ after ++ ':' :: more) (.members [(codePoints name, json)]) := by
  intro fuel done rest hfuel
  simp only [List.length_append, List.length_cons] at hfuel
  obtain ⟨fuel, rfl⟩ := Nat.exists_eq_add_one_of_ne_zero (show fuel ≠ 0 by omega)
  obtain ⟨left, hvalue, hleft⟩ := h fuel ('}' :: rest) (by omega) (endsValue_brace rest)
  rw [skipSpace_cons rfl] at hleft
  rw [List.append_assoc, List.cons_append, members_named hbefore hname hafter]
  simp only [memberValue, hvalue, hleft, List.reverse_cons]

theorem reads_moreMembers {name : String} {json : Json} {before after last : List Char}
    (hbefore : IsSpaces before) (hname : SpellsText name cs) (hafter : IsSpaces after)
    (h : Reads depth more (.padded json)) (hmore : Reads depth last (.members entries)) :
    Reads depth (before ++ cs ++ after ++ ':' :: more ++ ',' :: last)
      (.members ((codePoints name, json) :: entries)) := by
  intro fuel done rest hfuel
  simp only [List.length_append, List.length_cons] at hfuel
  obtain ⟨fuel, rfl⟩ := Nat.exists_eq_add_one_of_ne_zero (show fuel ≠ 0 by omega)
  obtain ⟨left, hvalue, hleft⟩ := h fuel (',' :: (last ++ '}' :: rest)) (by omega)
    (endsValue_comma _)
  rw [skipSpace_cons rfl] at hleft
  have hmembers := hmore fuel ((codePoints name, json) :: done) rest (by omega)
  have hsplit : before ++ cs ++ after ++ ':' :: more ++ ',' :: last ++ '}' :: rest =
      before ++ cs ++ after ++ ':' :: (more ++ ',' :: (last ++ '}' :: rest)) := by
    simp
  rw [hsplit, members_named hbefore hname hafter]
  simp only [memberValue, hvalue, hleft, hmembers, List.reverse_cons, List.append_assoc,
    List.singleton_append]

end Lists

/-! ## Values in brackets -/

section Brackets

variable {depth : Nat} {list : List Json} {entries : List (List CodePoint × Json)}
variable {cs spaces : List Char}

theorem reads_emptyArray (h : IsSpaces spaces) :
    Reads (depth + 1) ('[' :: spaces ++ [']']) (.value (.array [])) := by
  intro fuel rest hfuel _
  simp only [List.length_append, List.length_cons] at hfuel
  obtain ⟨fuel, rfl⟩ := Nat.exists_eq_add_one_of_ne_zero (show fuel ≠ 0 by omega)
  have hskip : skipSpace (spaces ++ ']' :: rest) = ']' :: rest := by
    rw [skipSpace_append h, skipSpace_cons rfl]
  have hsplit : '[' :: spaces ++ [']'] ++ rest = '[' :: (spaces ++ ']' :: rest) := by simp
  rw [hsplit, value, hskip]
  rfl

theorem reads_emptyObject (h : IsSpaces spaces) :
    Reads (depth + 1) ('{' :: spaces ++ ['}']) (.value (.object [])) := by
  intro fuel rest hfuel _
  simp only [List.length_append, List.length_cons] at hfuel
  obtain ⟨fuel, rfl⟩ := Nat.exists_eq_add_one_of_ne_zero (show fuel ≠ 0 by omega)
  have hskip : skipSpace (spaces ++ '}' :: rest) = '}' :: rest := by
    rw [skipSpace_append h, skipSpace_cons rfl]
  have hsplit : '{' :: spaces ++ ['}'] ++ rest = '{' :: (spaces ++ '}' :: rest) := by simp
  rw [hsplit, value, hskip]
  rfl

theorem reads_array (hspelled : SpellsPart (.items list) cs) (h : Reads depth cs (.items list)) :
    Reads (depth + 1) ('[' :: cs ++ [']']) (.value (.array list)) := by
  intro fuel rest hfuel _
  simp only [List.length_append, List.length_cons] at hfuel
  obtain ⟨fuel, rfl⟩ := Nat.exists_eq_add_one_of_ne_zero (show fuel ≠ 0 by omega)
  obtain ⟨c, more, hstart, hc⟩ := hspelled.items_start (']' :: rest)
  have hitems := h fuel [] rest (by omega)
  rw [hstart] at hitems
  have hsplit : '[' :: cs ++ [']'] ++ rest = '[' :: (cs ++ ']' :: rest) := by simp
  rw [hsplit, value, hstart]
  split
  · rename_i heq
    exact absurd (List.cons.inj heq).1 hc.ne.2.1
  · exact hitems

theorem reads_object (hspelled : SpellsPart (.members entries) cs)
    (h : Reads depth cs (.members entries)) :
    Reads (depth + 1) ('{' :: cs ++ ['}']) (.value (.object entries)) := by
  intro fuel rest hfuel _
  simp only [List.length_append, List.length_cons] at hfuel
  obtain ⟨fuel, rfl⟩ := Nat.exists_eq_add_one_of_ne_zero (show fuel ≠ 0 by omega)
  obtain ⟨more, hstart⟩ := hspelled.members_start ('}' :: rest)
  have hmembers := h fuel [] rest (by omega)
  rw [hstart] at hmembers
  have hsplit : '{' :: cs ++ ['}'] ++ rest = '{' :: (cs ++ '}' :: rest) := by simp
  rw [hsplit, value, hstart]
  exact hmembers

end Brackets

/-! ## Texts -/

theorem Spells.ne_nil {json : Json} {text : List Char} (h : Spells json text) : text ≠ [] := by
  obtain ⟨c, more, hstart, -⟩ := h.padded_starts []
  rintro rfl
  cases hstart

/-- Every part is read from what spells it. -/
theorem reads_of_spellsPart {part : Part} {cs : List Char} (hspelled : SpellsPart part cs)
    {depth : Nat} (h : Readable depth part) : Reads depth cs part := by
  induction hspelled generalizing depth with
  | null =>
    exact reads_scalar (by decide) (by decide) (by decide)
      fun rest _ => scalar_word "null" (by simp [words]) rest
  | true =>
    exact reads_scalar (by decide) (by decide) (by decide)
      fun rest _ => scalar_word "true" (by simp [words]) rest
  | false =>
    exact reads_scalar (by decide) (by decide) (by decide)
      fun rest _ => scalar_word "false" (by simp [words]) rest
  | @int n negative whole hwhole hn =>
    cases h with
    | int hlimit =>
      have hvalue : digitsValue whole < 10 ^ digitLimit := by
        cases negative <;> simpa [hn] using hlimit
      have hread : Reads depth (minus negative ++ (whole ++ [])) (.value (.int n)) :=
        reads_number hwhole fun rest hrest => by
          rw [List.append_nil, number_int hwhole hvalue hrest, ← hn]
      rwa [List.append_nil] at hread
  | @float x negative whole digits fraction exponent power hwhole hfraction hexponent hpart hx =>
    have hread : Reads depth (minus negative ++ (whole ++ (fraction ++ exponent)))
        (.value (.float x)) :=
      reads_number hwhole fun rest hrest => by
        rw [← List.append_assoc, ← List.append_assoc,
          number_float negative hwhole hfraction hexponent hpart hrest, ← hx]
    rwa [← List.append_assoc, ← List.append_assoc] at hread
  | string hpoints hspelled =>
    rw [hpoints]
    exact reads_string hspelled
  | emptyArray hspaces =>
    cases h with
    | array h => exact reads_emptyArray hspaces
  | array hspelled ih =>
    cases h with
    | array h => exact reads_array hspelled (ih h)
  | emptyObject hspaces =>
    cases h with
    | object h => exact reads_emptyObject hspaces
  | object hspelled ih =>
    cases h with
    | object h => exact reads_object hspelled (ih h)
  | padded hbefore hspelled hafter ih =>
    cases h with
    | padded h => exact reads_padded hbefore hspelled hafter (ih h)
  | lastItem hspelled ih =>
    cases h with
    | items h => exact reads_lastItem (ih (.padded (h _ List.mem_cons_self)))
  | moreItems hspelled hmore ih ihmore =>
    cases h with
    | items h =>
      rw [List.forall_mem_cons] at h
      exact reads_moreItems (ih (.padded h.1)) (ihmore (.items h.2))
  | lastMember hpoints hbefore hname hafter hspelled ih =>
    cases h with
    | members h =>
      rw [hpoints]
      exact reads_lastMember hbefore hname hafter (ih (.padded (h _ List.mem_cons_self)))
  | moreMembers hpoints hbefore hname hafter hspelled hmore ih ihmore =>
    cases h with
    | members h =>
      rw [List.forall_mem_cons] at h
      rw [hpoints]
      exact reads_moreMembers hbefore hname hafter (ih (.padded h.1)) (ihmore (.members h.2))

/-- The reader reads whatever spells a value that it can read. -/
theorem read_of_spells {json : Json} {text : List Char} (hspelled : Spells json text) {depth : Nat}
    (h : Readable depth (.value json)) : read depth text = .ok json := by
  have hmark : text.head? ≠ some '\uFEFF' := by
    intro hhead
    obtain ⟨more, rfl⟩ := List.head?_eq_some_iff.mp hhead
    obtain ⟨c, rest, hstart, hc⟩ := hspelled.padded_starts []
    rw [List.append_nil, skipSpace_cons rfl] at hstart
    exact hc.ne.2.2 (List.cons.inj hstart).1.symm
  obtain ⟨left, hvalue, hleft⟩ := reads_of_spellsPart hspelled (.padded h) (2 * text.length + 2) []
    (Nat.le_add_right _ _) endsValue_nil
  rw [List.append_nil] at hvalue
  have hnothing : skipSpace [] = [] := rfl
  rw [read, if_neg hmark]
  simp only [hvalue, hleft, hnothing]

/-- A text spells at most one value that can be read. -/
theorem Spells.unique {a b : Json} {text : List Char} (ha : Spells a text) (hb : Spells b text)
    {depth : Nat} (hreadable : Readable depth (.value a)) (hreadable' : Readable depth (.value b)) :
    a = b :=
  Except.ok.inj ((read_of_spells ha hreadable).symm.trans (read_of_spells hb hreadable'))

end LineArithmetic.Json
