/-!
# Code points

A text from outside may hold halves of surrogate pairs, which are code points
but no characters.  Such a text is a list of code points; it is an ordinary
text exactly if none of them is a surrogate.
-/

namespace LineArithmetic.Text

/-- A number below the end of the code space. -/
abbrev CodePoint : Type := Fin 0x110000

namespace CodePoint

/-- The code point of a number. -/
def ofNat? (n : Nat) : Option CodePoint :=
  if h : n < 0x110000 then some ⟨n, h⟩ else none

/-- The code point of a number in the code space; other numbers wrap around. -/
def ofNat (n : Nat) : CodePoint :=
  Fin.ofNat 0x110000 n

/-- The code point of a character. -/
def ofChar (c : Char) : CodePoint :=
  ofNat c.toNat

/-- Whether a code point is the first half of a surrogate pair. -/
def isHighSurrogate (p : CodePoint) : Bool :=
  0xD800 ≤ p.val ∧ p.val ≤ 0xDBFF

/-- Whether a code point is the second half of a surrogate pair. -/
def isLowSurrogate (p : CodePoint) : Bool :=
  0xDC00 ≤ p.val ∧ p.val ≤ 0xDFFF

def isSurrogate (p : CodePoint) : Bool :=
  p.isHighSurrogate || p.isLowSurrogate

/-- The code point of a surrogate pair. -/
def joinSurrogates (high low : CodePoint) : CodePoint :=
  ofNat (0x10000 + (high.val - 0xD800) * 0x400 + (low.val - 0xDC00))

/-- The character of a code point that is no surrogate. -/
def toChar? (p : CodePoint) : Option Char :=
  if p.isSurrogate then none else some (Char.ofNat p.val)

end CodePoint

/-- The code points of a text. -/
def codePoints (text : String) : List CodePoint :=
  text.toList.map CodePoint.ofChar

/-- The text of the code points that are characters. -/
def ofCodePoints (points : List CodePoint) : String :=
  String.ofList (points.filterMap CodePoint.toChar?)

/-- The text of code points none of which is a surrogate. -/
def ofCodePoints? (points : List CodePoint) : Option String :=
  (points.mapM CodePoint.toChar?).map String.ofList

theorem CodePoint.toNat_lt (c : Char) : c.toNat < 0x110000 := by
  have h := c.valid
  simp only [UInt32.isValidChar, Nat.isValidChar] at h
  unfold Char.toNat
  omega

theorem CodePoint.toChar?_ofChar (c : Char) : (ofChar c).toChar? = some c := by
  have h := c.valid
  simp only [UInt32.isValidChar, Nat.isValidChar] at h
  have hval : (ofChar c).val = c.toNat := Nat.mod_eq_of_lt (toNat_lt c)
  have hnot : (ofChar c).isSurrogate = false := by
    simp only [isSurrogate, isHighSurrogate, isLowSurrogate, hval, Char.toNat,
      Bool.or_eq_false_iff, decide_eq_false_iff_not]
    omega
  simp [toChar?, hnot, hval]

theorem ofCodePoints_codePoints (text : String) : ofCodePoints (codePoints text) = text := by
  have hmap : (text.toList.map CodePoint.ofChar).filterMap CodePoint.toChar? = text.toList := by
    induction text.toList with
    | nil => rfl
    | cons c cs ih =>
      rw [List.map_cons, List.filterMap_cons, CodePoint.toChar?_ofChar, ih]
  rw [ofCodePoints, codePoints, hmap, String.ofList_toList]

end LineArithmetic.Text
