import LineArithmetic.Json.Reading
import LineArithmetic.Proofs.Json.Grammar
import Mathlib.Data.List.Basic

/-!
# Reading strings

The reader takes exactly the characters that spell a string and gives the code points
of the text that they spell (`stringBody_spellsChars`), whatever follows: the closing
quote ends a string.  Each rule of the grammar is one lemma: an escape is measured by
`unescape` and then dropped.
-/

namespace LineArithmetic

namespace Text.CodePoint

theorem val_ofNat {n : Nat} (h : n < 0x110000) : (ofNat n).val = n :=
  Nat.mod_eq_of_lt h

theorem val_ofChar (c : Char) : (ofChar c).val = c.toNat :=
  val_ofNat (toNat_lt c)

/-- A character is no half of a pair. -/
theorem isSurrogate_ofChar (c : Char) : (ofChar c).isSurrogate = false := by
  have hchar := toChar?_ofChar c
  unfold toChar? at hchar
  split at hchar
  · cases hchar
  · rename_i h
    exact Bool.eq_false_iff.mpr h

theorem isHighSurrogate_ofChar (c : Char) : (ofChar c).isHighSurrogate = false :=
  (Bool.or_eq_false_iff.mp (isSurrogate_ofChar c)).1

end Text.CodePoint

namespace Json

open Text

variable {opening next : List Char} {points : List CodePoint}

/-- The digits of a number are read as its code point. -/
theorem exists_hex4?_eq {n : Nat} {digits : List Char} (h : SpellsHex n digits) :
    ∃ a b c d, digits = [a, b, c, d] ∧ hex4? a b c d = some (.ofNat n) := by
  obtain ⟨hlength, hnumber⟩ := h
  obtain ⟨a, digits, rfl⟩ := List.exists_cons_of_length_eq_add_one hlength
  obtain ⟨b, c, d, rfl⟩ := List.length_eq_three.mp (Nat.succ.inj hlength)
  refine ⟨a, b, c, d, rfl, ?_⟩
  obtain ⟨i, ha, j, hb, k, hc, l, hd, hn⟩ : ∃ i, hexDigit? a = some i ∧ ∃ j, hexDigit? b = some j ∧
      ∃ k, hexDigit? c = some k ∧ ∃ l, hexDigit? d = some l ∧
        ((i * 16 + j) * 16 + k) * 16 + l = n := by
    simpa [hexNumber?, Option.bind_eq_some_iff] using hnumber
  simp only [hex4?, ha, hb, hc, hd, hn]

/-- A code point that is no first half of a pair is read from its digits alone. -/
theorem unicodeEscape_single {n : Nat} {digits : List Char} (h : SpellsHex n digits)
    (hsingle : (CodePoint.ofNat n).isHighSurrogate = false) (hnext : next ≠ []) :
    unicodeEscape (digits ++ next) = .ok (.ofNat n, 5) := by
  obtain ⟨a, b, c, d, rfl, hhex⟩ := exists_hex4?_eq h
  obtain ⟨e, rest, rfl⟩ := List.exists_cons_of_ne_nil hnext
  simp only [List.cons_append, List.nil_append, unicodeEscape, hhex, hsingle, Bool.false_eq_true,
    if_false]

/-- Both halves of a pair are read together. -/
theorem unicodeEscape_pair {high low : Nat} {highDigits lowDigits : List Char}
    (hhigh : high < 0x400) (hlow : low < 0x400) (hhighDigits : SpellsHex (0xD800 + high) highDigits)
    (hlowDigits : SpellsHex (0xDC00 + low) lowDigits) (hnext : next ≠ []) :
    unicodeEscape (highDigits ++ '\\' :: 'u' :: lowDigits ++ next) =
      .ok (.ofNat (0x10000 + high * 0x400 + low), 11) := by
  obtain ⟨a, b, c, d, rfl, hhex⟩ := exists_hex4?_eq hhighDigits
  obtain ⟨a', b', c', d', rfl, hhex'⟩ := exists_hex4?_eq hlowDigits
  obtain ⟨e, rest, rfl⟩ := List.exists_cons_of_ne_nil hnext
  have hhighVal := CodePoint.val_ofNat (show 0xD800 + high < 0x110000 by omega)
  have hlowVal := CodePoint.val_ofNat (show 0xDC00 + low < 0x110000 by omega)
  have hisHigh : (CodePoint.ofNat (0xD800 + high)).isHighSurrogate = true := by
    simp only [CodePoint.isHighSurrogate, hhighVal, decide_eq_true_eq]
    omega
  have hisLow : (CodePoint.ofNat (0xDC00 + low)).isLowSurrogate = true := by
    simp only [CodePoint.isLowSurrogate, hlowVal, decide_eq_true_eq]
    omega
  have hjoin : CodePoint.joinSurrogates (.ofNat (0xD800 + high)) (.ofNat (0xDC00 + low)) =
      .ofNat (0x10000 + high * 0x400 + low) := by
    rw [CodePoint.joinSurrogates, hhighVal, hlowVal, Nat.add_sub_cancel_left,
      Nat.add_sub_cancel_left]
  simp only [List.cons_append, List.nil_append, unicodeEscape, hhex, hisHigh, if_true, lowHalf,
    hhex', hisLow, hjoin]

theorem escaped?_of_mem_shortEscapes :
    ∀ escape ∈ shortEscapes, escape.1 ≠ 'u' ∧ escaped? escape.1 = some escape.2 := by
  decide

/-- An escape is read as the character that it spells. -/
theorem stringBody_unescape {c : Char} {spelling : List Char}
    (h : unescape opening (spelling ++ next) = .ok (.ofChar c, spelling.length)) :
    stringBody opening points ('\\' :: spelling ++ next) =
      stringBody opening (.ofChar c :: points) next := by
  rw [List.cons_append, stringBody, if_neg (by decide), if_pos rfl, h]
  simp only [List.drop_left]

/-- A spelled character is read as the character. -/
theorem stringBody_spellsChar {c : Char} {spelling : List Char} (h : SpellsChar c spelling)
    (hnext : next ≠ []) : stringBody opening points (spelling ++ next) =
      stringBody opening (.ofChar c :: points) next := by
  cases h with
  | plain hcontrol hquote hbackslash =>
    rw [List.singleton_append, stringBody, if_neg hquote, if_neg hbackslash, if_neg (by omega)]
  | short h =>
    rename_i letter
    obtain ⟨hletter, hescaped⟩ := escaped?_of_mem_shortEscapes _ h
    have hescape : unescape opening ([letter] ++ next) = .ok (.ofChar c, 1) := by
      simp only [List.singleton_append, unescape, hescaped]
    exact stringBody_unescape hescape
  | number h =>
    rename_i digits
    have hescape : unescape opening ('u' :: digits ++ next) =
        .ok (.ofChar c, ('u' :: digits).length) := by
      rw [List.cons_append, unescape, unicodeEscape_single h (CodePoint.isHighSurrogate_ofChar c) hnext,
        List.length_cons, h.1]
      rfl
    exact stringBody_unescape hescape
  | pair hhigh hlow hpair hhighDigits hlowDigits =>
    rename_i highDigits lowDigits
    have hescape : unescape opening ('u' :: (highDigits ++ '\\' :: 'u' :: lowDigits) ++ next) =
        .ok (.ofChar c, ('u' :: (highDigits ++ '\\' :: 'u' :: lowDigits)).length) := by
      rw [List.cons_append, unescape, unicodeEscape_pair hhigh hlow hhighDigits hlowDigits hnext,
        ← hpair]
      simp only [List.length_cons, List.length_append, hhighDigits.1, hlowDigits.1]
      rfl
    exact stringBody_unescape hescape

/-- The characters of a string are read up to its closing quote. -/
theorem stringBody_spellsChars {cs inside : List Char} (h : SpellsChars cs inside)
    (rest : List Char) : stringBody opening points (inside ++ '"' :: rest) =
      .ok (points.reverse ++ cs.map CodePoint.ofChar, rest) := by
  induction h generalizing points with
  | nil =>
    rw [List.nil_append, stringBody, if_pos rfl, List.map_nil, List.append_nil]
  | @cons c cs spelling more hc hcs ih =>
    have hnext : more ++ '"' :: rest ≠ [] :=
      List.append_ne_nil_of_right_ne_nil _ (List.cons_ne_nil _ _)
    rw [List.append_assoc, stringBody_spellsChar hc hnext, ih, List.reverse_cons, List.append_assoc]
    rfl

end Json

end LineArithmetic
