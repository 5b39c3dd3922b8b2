import LineArithmetic.Json.Printing
import LineArithmetic.Proofs.Binary64.Printing
import LineArithmetic.Proofs.Json.Grammar

/-!
# What is written is JSON

A value on one line is spelled by its text (`spells_print`), if its strings are
texts and its numbers are finite, which is what `Writable` says.  The induction is on
`Writable`; it mirrors the grammar, so each case is one rule of it and the shape of
the text that the writer puts together.
-/

namespace LineArithmetic.Json

open Text

/-! ## Strings -/

theorem spellsHex_hex_of_lt : ∀ n < 0x20, SpellsHex n (hex 4 n) := by decide

theorem spellsChar_escapeChar (c : Char) : SpellsChar c (escapeChar c) := by
  unfold escapeChar
  split_ifs with hquote hbackslash hfeed hreturn htab hform hback hcontrol
  · exact .short (by rw [hquote]; decide)
  · exact .short (by rw [hbackslash]; decide)
  · exact .short (by rw [hfeed]; decide)
  · exact .short (by rw [hreturn]; decide)
  · exact .short (by rw [htab]; decide)
  · exact .short (by rw [hform]; decide)
  · exact .short (by rw [hback]; decide)
  · refine .number ?_
    rcases hcontrol with hlt | hseparator | hseparator
    · exact spellsHex_hex_of_lt _ hlt
    · rw [hseparator]
      decide
    · rw [hseparator]
      decide
  · exact .plain (by omega) hquote hbackslash

theorem spellsChars_flatMap (cs : List Char) : SpellsChars cs (cs.flatMap escapeChar) := by
  induction cs with
  | nil => exact .nil
  | cons c cs ih => exact .cons (spellsChar_escapeChar c) ih

theorem escapePoint_ofChar (c : Char) : escapePoint (.ofChar c) = escapeChar c := by
  rw [escapePoint, CodePoint.toChar?_ofChar]

/-- A text is spelled by what is written of its code points. -/
theorem spellsText_stringText (text : String) :
    SpellsText text (stringText (codePoints text)).toList := by
  have hinside : (codePoints text).flatMap escapePoint = text.toList.flatMap escapeChar := by
    simp only [codePoints, List.flatMap_map, escapePoint_ofChar]
  rw [stringText, String.toList_ofList, hinside]
  exact .quoted (spellsChars_flatMap _)

/-! ## Numbers -/

theorem spellsPart_int (n : Int) : SpellsPart (.value (.int n)) (toString n).toList := by
  cases n with
  | ofNat n =>
    have htext : (toString (Int.ofNat n)).toList = minus false ++ Nat.toDigits 10 n :=
      toList_toString_ofNat n
    rw [htext]
    exact .int (isWhole_toDigits n) (by rw [digitsValue_toDigits]; rfl)
  | negSucc n =>
    have htext : (toString (Int.negSucc n)).toList = minus true ++ Nat.toDigits 10 (n + 1) :=
      toList_toString_negSucc n
    rw [htext]
    exact .int (isWhole_toDigits (n + 1)) (by rw [digitsValue_toDigits]; rfl)

/-- The digits behind a point, as they are written. -/
theorem spellsFraction_of_digits {fraction : List Char} (h : fraction = [] ∨ IsDigits fraction) :
    SpellsFraction fraction (if fraction = [] then [] else '.' :: fraction) := by
  rcases h with rfl | h
  · exact .none
  · rw [if_neg h.ne_nil]
    exact .digits h

/-- A power of ten, as it is written. -/
theorem spellsExponent_of_digits (down : Bool) {exponent : List Char} (h : IsDigits exponent) :
    SpellsExponent (if down then -(digitsValue exponent : Int) else digitsValue exponent)
      ('e' :: (if down then '-' else '+') :: exponent) := by
  cases down with
  | true => exact .down (Or.inl rfl) h
  | false =>
    have hsign : ['+'] = [] ∨ ['+'] = ['+'] := Or.inr rfl
    exact .up (Or.inl rfl) hsign h

/-- A finite number is spelled by its text. -/
theorem spellsPart_float (negative : Bool) (rank : Fin Binary64.rankLimit) :
    SpellsPart (.value (.float (.finite negative rank)))
      (Binary64.finite negative rank).text.toList := by
  have htext : (Binary64.finite negative rank).text.toList =
      minus negative ++ (Binary64.magnitudeText rank).toList := by
    rw [Binary64.text, String.toList_append]
    cases negative <;> rfl
  rw [htext]
  rcases Binary64.magnitudeText_cases rank with
    ⟨whole, fraction, hwhole, hfraction, hmagnitude, hvalue⟩ |
    ⟨first, fraction, exponent, down, hfirst, hfraction, hexponent, hmagnitude, hvalue⟩
  · have hspelled : SpellsPart (.value (.float (.finite negative rank)))
        (minus negative ++ whole ++ '.' :: fraction ++ []) := by
      refine .float hwhole (.digits hfraction) .none (Or.inl nofun) ?_
      rw [Int.zero_sub, hvalue]
    rw [hmagnitude]
    simpa using hspelled
  · have hspelled := SpellsPart.float hfirst (spellsFraction_of_digits hfraction)
      (spellsExponent_of_digits down hexponent) (Or.inr nofun) (hvalue negative).symm
    rw [hmagnitude]
    simpa using hspelled

/-! ## Values -/

/-- The values that can be written: every string is a text, and every number is
finite.  The items of an array and the members of an object are never empty lists;
the empty array and the empty object are cases of their own, as in the grammar. -/
inductive Writable : Part → Prop where
  | null : Writable (.value .null)
  | bool (b : Bool) : Writable (.value (.bool b))
  | int (n : Int) : Writable (.value (.int n))
  | float (negative : Bool) (rank : Fin Binary64.rankLimit) :
      Writable (.value (.float (.finite negative rank)))
  | string (text : String) : Writable (.value (.string (codePoints text)))
  | emptyArray : Writable (.value (.array []))
  | array {items : List Json} (h : Writable (.items items)) : Writable (.value (.array items))
  | emptyObject : Writable (.value (.object []))
  | object {members : List (List CodePoint × Json)} (h : Writable (.members members)) :
      Writable (.value (.object members))
  | lastItem {item : Json} (h : Writable (.value item)) : Writable (.items [item])
  | moreItems {item next : Json} {items : List Json} (h : Writable (.value item))
      (hmore : Writable (.items (next :: items))) : Writable (.items (item :: next :: items))
  | lastMember (name : String) {member : Json} (h : Writable (.value member)) :
      Writable (.members [(codePoints name, member)])
  | moreMembers (name : String) {member : Json} {next : List CodePoint × Json}
      {members : List (List CodePoint × Json)} (h : Writable (.value member))
      (hmore : Writable (.members (next :: members))) :
      Writable (.members ((codePoints name, member) :: next :: members))

theorem writable_array {items : List Json} (h : ∀ item ∈ items, Writable (.value item)) :
    Writable (.value (.array items)) := by
  cases items with
  | nil => exact .emptyArray
  | cons item items =>
    refine .array ?_
    induction items generalizing item with
    | nil => exact .lastItem (h item List.mem_cons_self)
    | cons next items ih =>
      rw [List.forall_mem_cons] at h
      exact .moreItems h.1 (ih next h.2)

theorem writable_ofMembers {members : List (String × Json)}
    (h : ∀ member ∈ members, Writable (.value member.2)) : Writable (.value (.ofMembers members)) := by
  cases members with
  | nil => exact .emptyObject
  | cons member members =>
    refine .object ?_
    induction members generalizing member with
    | nil => exact .lastMember member.1 (h member List.mem_cons_self)
    | cons next members ih =>
      rw [List.forall_mem_cons] at h
      exact .moreMembers member.1 h.1 (ih next h.2)

theorem Writable.items_ne_nil {items : List Json} (h : Writable (.items items)) : items ≠ [] := by
  cases h <;> exact List.cons_ne_nil _ _

theorem Writable.members_ne_nil {members : List (List CodePoint × Json)}
    (h : Writable (.members members)) : members ≠ [] := by
  cases h <;> exact List.cons_ne_nil _ _

/-- A member on one line. -/
def memberText (depth : Nat) (member : List CodePoint × Json) : String :=
  stringText member.1 ++ ":" ++ textAt .compact depth member.2

/-- The text of a part on one line. -/
def partText (depth : Nat) : Part → String
  | .value json | .padded json => textAt .compact depth json
  | .items items => ",".intercalate (items.map (textAt .compact depth))
  | .members members => ",".intercalate (members.map (memberText depth))

theorem isSpaces_nil : IsSpaces [] := nofun

theorem SpellsPart.unpadded {json : Json} {cs : List Char} (h : SpellsPart (.value json) cs) :
    SpellsPart (.padded json) cs := by
  have hpadded := h.padded isSpaces_nil isSpaces_nil
  rwa [List.nil_append, List.append_nil] at hpadded

theorem textAt_array (depth : Nat) {items : List Json} (h : items ≠ []) :
    textAt .compact depth (.array items) = "[" ++ partText (depth + 1) (.items items) ++ "]" := by
  have hparts : (items.map (textAt .compact (depth + 1))).isEmpty = false := by
    rwa [List.isEmpty_map, List.isEmpty_eq_false_iff]
  rw [textAt, Layout.enclose, hparts]
  simp [Layout.compact, partText]

theorem textAt_object (depth : Nat) {members : List (List CodePoint × Json)} (h : members ≠ []) :
    textAt .compact depth (.object members) =
      "\x7b" ++ partText (depth + 1) (.members members) ++ "\x7d" := by
  have hparts : (members.map (memberText (depth + 1))).isEmpty = false := by
    rwa [List.isEmpty_map, List.isEmpty_eq_false_iff]
  have htext : textAt .compact depth (.object members) =
      Layout.compact.enclose depth "\x7b" "\x7d" (members.map (memberText (depth + 1))) := by
    rw [textAt]
    rfl
  rw [htext, Layout.enclose, hparts]
  simp [Layout.compact, partText]

/-- What is written of a part spells it. -/
theorem spellsPart_partText {part : Part} (h : Writable part) (depth : Nat) :
    SpellsPart part (partText depth part).toList := by
  induction h generalizing depth with
  | null =>
    rw [partText, textAt]
    exact .null
  | bool b =>
    rw [partText, textAt]
    cases b with
    | true => exact .true
    | false => exact .false
  | int n =>
    rw [partText, textAt]
    exact spellsPart_int n
  | float negative rank =>
    rw [partText, textAt]
    exact spellsPart_float negative rank
  | string text =>
    rw [partText, textAt]
    exact .string rfl (spellsText_stringText text)
  | emptyArray =>
    have htext : textAt .compact depth (.array []) = "[]" := by rw [textAt]; rfl
    rw [partText, htext]
    exact .emptyArray isSpaces_nil
  | array h ih =>
    rw [partText, textAt_array depth h.items_ne_nil, String.toList_append, String.toList_append]
    exact .array (ih (depth + 1))
  | emptyObject =>
    have htext : textAt .compact depth (.object []) = "\x7b\x7d" := by rw [textAt]; rfl
    rw [partText, htext]
    exact .emptyObject isSpaces_nil
  | object h ih =>
    rw [partText, textAt_object depth h.members_ne_nil, String.toList_append, String.toList_append]
    exact .object (ih (depth + 1))
  | lastItem h ih =>
    rw [partText, List.map_singleton, String.intercalate_singleton]
    exact .lastItem (ih depth).unpadded
  | moreItems h hmore ih ihmore =>
    rw [partText, List.map_cons, List.map_cons, String.intercalate_cons_cons, String.toList_append,
      String.toList_append]
    have hspelled := SpellsPart.moreItems (ih depth).unpadded (ihmore depth)
    simpa [partText] using hspelled
  | lastMember name h ih =>
    rw [partText, List.map_singleton, String.intercalate_singleton]
    have hspelled := SpellsPart.lastMember rfl isSpaces_nil (spellsText_stringText name) isSpaces_nil
      (ih depth).unpadded
    simpa [memberText, partText] using hspelled
  | moreMembers name h hmore ih ihmore =>
    rw [partText, List.map_cons, List.map_cons, String.intercalate_cons_cons]
    have hspelled := SpellsPart.moreMembers rfl isSpaces_nil (spellsText_stringText name)
      isSpaces_nil (ih depth).unpadded (ihmore depth)
    simpa [memberText, partText] using hspelled

/-- What is written of a value on one line is a text of the value. -/
theorem spells_print {json : Json} (h : Writable (.value json)) :
    Spells json (json.print .compact).toList :=
  (spellsPart_partText h 0).unpadded

end LineArithmetic.Json
