import Mathlib.Data.List.Forall2
import LineArithmetic.Charset.Utf8
import LineArithmetic.Text.CodePoint

/-!
# UTF-8 and the encodings of characters

The reader of UTF-8 knows a character by its first byte: how many bytes follow,
in which ranges they lie, and which bits each of them holds.  The encoding of a
character is defined the other way round, by division of its number.  Both give
the same pairs of a character and its bytes (`front_eq_chars_iff`): bytes in
their ranges hold the number that the divisions take apart, and the narrowed
range of some second bytes is what keeps overlong forms, surrogates and numbers
beyond the code space out.

So the encoding of a text is read as the text by every reading
(`decode_encode`), and a strict reading accepts nothing else
(`decode_strict_eq_ok_iff`).
-/

namespace LineArithmetic.Charset.Utf8

/-! ## Bytes behind the first one -/

/-- Whether a byte lies in a range. -/
def InRange (range : UInt8 × UInt8) (byte : UInt8) : Prop :=
  range.1 ≤ byte ∧ byte ≤ range.2

/-- Six more bits of the number of a character. -/
def shifted (code : Nat) (byte : UInt8) : Nat :=
  code * 64 + (byte.toNat - 0x80)

/-- The number of a character: the bits of its first byte and six bits of each
byte after it. -/
def joined (lead : Nat) (tail : List UInt8) : Nat :=
  tail.foldl shifted lead

theorem joined_nil (lead : Nat) : joined lead [] = lead := List.foldl_nil

theorem joined_cons (lead : Nat) (byte : UInt8) (more : List UInt8) :
    joined lead (byte :: more) = joined (shifted lead byte) more := by
  simp only [joined, List.foldl_cons]

theorem shifted_of_toNat {byte : UInt8} {six : Nat} (h : byte.toNat = six + 0x80) (code : Nat) :
    shifted code byte = code * 64 + six := by
  unfold shifted
  omega

theorem continuation_of_inRange {range : UInt8 × UInt8} {byte : UInt8} (h : InRange range byte)
    (done lead : Nat) (ranges : List (UInt8 × UInt8)) (bytes : List UInt8) :
    continuation done lead (range :: ranges) (byte :: bytes) =
      continuation (done + 1) (shifted lead byte) ranges bytes :=
  if_pos h

theorem continuation_of_not_inRange {range : UInt8 × UInt8} {byte : UInt8}
    (h : ¬ InRange range byte) (done lead : Nat) (ranges : List (UInt8 × UInt8))
    (bytes : List UInt8) : continuation done lead (range :: ranges) (byte :: bytes) =
      .fault done .invalidContinuation :=
  if_neg h

/-- Bytes in their ranges are read together, and nothing behind them. -/
theorem continuation_eq_chars_iff {ranges : List (UInt8 × UInt8)} {bytes : List UInt8}
    {cs : List Char} {done lead more : Nat} :
    continuation done lead ranges bytes = .chars cs more () ↔
      ∃ tail rest, bytes = tail ++ rest ∧ List.Forall₂ InRange ranges tail ∧
        more = done + tail.length ∧ cs = [Char.ofNat (joined lead tail)] := by
  induction ranges generalizing done lead bytes with
  | nil =>
    rw [continuation, Front.chars.injEq]
    constructor
    · rintro ⟨rfl, rfl, -⟩
      exact ⟨[], bytes, rfl, .nil, rfl, rfl⟩
    · rintro ⟨tail, rest, rfl, hranges, rfl, rfl⟩
      cases hranges
      exact ⟨rfl, rfl, rfl⟩
  | cons range ranges ih =>
    cases bytes with
    | nil =>
      refine iff_of_false nofun ?_
      rintro ⟨tail, rest, hbytes, hranges, -⟩
      cases hranges
      cases hbytes
    | cons byte bytes =>
      by_cases hbyte : InRange range byte
      · rw [continuation_of_inRange hbyte, ih]
        constructor
        · rintro ⟨tail, rest, rfl, hranges, rfl, rfl⟩
          refine ⟨byte :: tail, rest, rfl, .cons hbyte hranges, ?_, ?_⟩
          · exact Nat.succ_add_eq_add_succ done tail.length
          · rw [joined_cons]
        · rintro ⟨tail, rest, hbytes, hranges, rfl, rfl⟩
          cases hranges with
          | @cons _ _ _ tail hhead htail =>
            obtain ⟨rfl, rfl⟩ := List.cons.inj hbytes
            refine ⟨tail, rest, rfl, htail, ?_, ?_⟩
            · exact (Nat.succ_add_eq_add_succ done tail.length).symm
            · rw [joined_cons]
      · rw [continuation_of_not_inRange hbyte]
        refine iff_of_false nofun ?_
        rintro ⟨tail, rest, hbytes, hranges, -⟩
        cases hranges with
        | cons hhead htail =>
          obtain ⟨rfl, rfl⟩ := List.cons.inj hbytes
          exact hbyte hhead

theorem continuation_ne_stop (ranges : List (UInt8 × UInt8)) (bytes : List UInt8)
    (done lead : Nat) : continuation done lead ranges bytes ≠ .stop := by
  induction ranges generalizing bytes done lead with
  | nil => exact nofun
  | cons range ranges ih =>
    cases bytes with
    | nil => exact nofun
    | cons byte bytes =>
      by_cases hbyte : InRange range byte
      · rw [continuation_of_inRange hbyte]
        exact ih _ _ _
      · rw [continuation_of_not_inRange hbyte]
        exact nofun

/-! ## First bytes -/

/-- The range of a byte that may hold any six bits. -/
def anySix : UInt8 × UInt8 := (0x80, 0xBF)

/-- The range of the second of three bytes, which shuts out numbers that need
two bytes only and surrogates. -/
def secondOfThree (lead : Nat) : UInt8 × UInt8 :=
  if lead = 0 then (0xA0, 0xBF) else if lead = 13 then (0x80, 0x9F) else anySix

/-- The range of the second of four bytes, which shuts out numbers that need
three bytes only and numbers beyond the code space. -/
def secondOfFour (lead : Nat) : UInt8 × UInt8 :=
  if lead = 0 then (0x90, 0xBF) else if lead = 4 then (0x80, 0x8F) else anySix

section FirstByte

variable {byte : UInt8} {lead : Nat}

theorem continuationRanges_one (h : byte.toNat < 0x80) :
    continuationRanges byte = some (byte.toNat, []) := by
  simp only [continuationRanges, UInt8.lt_iff_toNat_lt, UInt8.reduceToNat]
  rw [if_pos h]

theorem continuationRanges_two (h : byte.toNat = lead + 0xC0) (hlow : 2 ≤ lead)
    (hhigh : lead < 0x20) : continuationRanges byte = some (lead, [anySix]) := by
  simp only [continuationRanges, UInt8.lt_iff_toNat_lt, UInt8.reduceToNat, h]
  rw [if_neg (by omega), if_neg (by omega), if_pos (by omega), Nat.add_sub_cancel]
  rfl

theorem continuationRanges_three (h : byte.toNat = lead + 0xE0) (hhigh : lead < 0x10) :
    continuationRanges byte = some (lead, [secondOfThree lead, anySix]) := by
  have hzero : lead + 0xE0 = 0xE0 ↔ lead = 0 := by omega
  have hlast : lead + 0xE0 = 0xED ↔ lead = 13 := by omega
  simp only [continuationRanges, UInt8.lt_iff_toNat_lt, ← UInt8.toNat_inj, UInt8.reduceToNat, h,
    hzero, hlast]
  rw [if_neg (by omega), if_neg (by omega), if_neg (by omega), if_pos (by omega),
    Nat.add_sub_cancel]
  rfl

theorem continuationRanges_four (h : byte.toNat = lead + 0xF0) (hhigh : lead < 5) :
    continuationRanges byte = some (lead, [secondOfFour lead, anySix, anySix]) := by
  have hzero : lead + 0xF0 = 0xF0 ↔ lead = 0 := by omega
  have hlast : lead + 0xF0 = 0xF4 ↔ lead = 4 := by omega
  simp only [continuationRanges, UInt8.lt_iff_toNat_lt, ← UInt8.toNat_inj, UInt8.reduceToNat, h,
    hzero, hlast]
  rw [if_neg (by omega), if_neg (by omega), if_neg (by omega), if_neg (by omega),
    if_pos (by omega), Nat.add_sub_cancel]
  rfl

theorem continuationRanges_none (h : 0x80 ≤ byte.toNat ∧ byte.toNat < 0xC2 ∨ 0xF5 ≤ byte.toNat) :
    continuationRanges byte = none := by
  simp only [continuationRanges, UInt8.lt_iff_toNat_lt, UInt8.reduceToNat]
  rcases h with h | h
  · rw [if_neg (by omega), if_pos (by omega)]
  · rw [if_neg (by omega), if_neg (by omega), if_neg (by omega), if_neg (by omega),
      if_neg (by omega)]

/-- The first bytes of characters of one to four bytes. -/
theorem continuationRanges_cases {ranges : List (UInt8 × UInt8)}
    (h : continuationRanges byte = some (lead, ranges)) :
    (byte.toNat = lead ∧ lead < 0x80 ∧ ranges = []) ∨
      (byte.toNat = lead + 0xC0 ∧ 2 ≤ lead ∧ lead < 0x20 ∧ ranges = [anySix]) ∨
      (byte.toNat = lead + 0xE0 ∧ lead < 0x10 ∧ ranges = [secondOfThree lead, anySix]) ∨
      (byte.toNat = lead + 0xF0 ∧ lead < 5 ∧ ranges = [secondOfFour lead, anySix, anySix]) := by
  by_cases hone : byte.toNat < 0x80
  · rw [continuationRanges_one hone] at h
    cases h
    exact Or.inl ⟨rfl, hone, rfl⟩
  · right
    by_cases hnone : byte.toNat < 0xC2 ∨ 0xF5 ≤ byte.toNat
    · rw [continuationRanges_none (by omega)] at h
      cases h
    · by_cases htwo : byte.toNat < 0xE0
      · obtain ⟨found, hbyte⟩ : ∃ found, byte.toNat = found + 0xC0 :=
          ⟨byte.toNat - 0xC0, by omega⟩
        rw [continuationRanges_two hbyte (by omega) (by omega)] at h
        cases h
        exact Or.inl ⟨hbyte, by omega, by omega, rfl⟩
      · right
        by_cases hthree : byte.toNat < 0xF0
        · obtain ⟨found, hbyte⟩ : ∃ found, byte.toNat = found + 0xE0 :=
          ⟨byte.toNat - 0xE0, by omega⟩
          rw [continuationRanges_three hbyte (by omega)] at h
          cases h
          exact Or.inl ⟨hbyte, by omega, rfl⟩
        · obtain ⟨found, hbyte⟩ : ∃ found, byte.toNat = found + 0xF0 :=
          ⟨byte.toNat - 0xF0, by omega⟩
          rw [continuationRanges_four hbyte (by omega)] at h
          cases h
          exact Or.inr ⟨hbyte, by omega, rfl⟩

end FirstByte

/-! ## Ranges -/

theorem inRange_anySix {byte : UInt8} :
    InRange anySix byte ↔ 0x80 ≤ byte.toNat ∧ byte.toNat ≤ 0xBF := by
  simp only [InRange, anySix, UInt8.le_iff_toNat_le, UInt8.reduceToNat]

theorem inRange_secondOfThree {lead : Nat} {byte : UInt8} :
    InRange (secondOfThree lead) byte ↔ InRange anySix byte ∧
      (lead = 0 → 0xA0 ≤ byte.toNat) ∧ (lead = 13 → byte.toNat ≤ 0x9F) := by
  rw [inRange_anySix]
  unfold secondOfThree
  split
  · simp only [InRange, UInt8.le_iff_toNat_le, UInt8.reduceToNat]
    omega
  · split
    · simp only [InRange, UInt8.le_iff_toNat_le, UInt8.reduceToNat]
      omega
    · rw [inRange_anySix]
      omega

theorem inRange_secondOfFour {lead : Nat} {byte : UInt8} :
    InRange (secondOfFour lead) byte ↔ InRange anySix byte ∧
      (lead = 0 → 0x90 ≤ byte.toNat) ∧ (lead = 4 → byte.toNat ≤ 0x8F) := by
  rw [inRange_anySix]
  unfold secondOfFour
  split
  · simp only [InRange, UInt8.le_iff_toNat_le, UInt8.reduceToNat]
    omega
  · split
    · simp only [InRange, UInt8.le_iff_toNat_le, UInt8.reduceToNat]
      omega
    · rw [inRange_anySix]
      omega

/-! ## Characters -/

/-- The numbers of the bytes of a character, by its own number. -/
def byteNumbers (code : Nat) : List Nat :=
  if code < 0x80 then [code]
  else if code < 0x800 then [code / 64 + 0xC0, code % 64 + 0x80]
  else if code < 0x10000 then [code / 4096 + 0xE0, code / 64 % 64 + 0x80, code % 64 + 0x80]
  else [code / 262144 + 0xF0, code / 4096 % 64 + 0x80, code / 64 % 64 + 0x80, code % 64 + 0x80]

theorem toNat_utf8EncodeChar (c : Char) :
    (String.utf8EncodeChar c).map UInt8.toNat = byteNumbers c.toNat := by
  have hvalid := Text.CodePoint.toNat_lt c
  have hv : c.val.toNat = c.toNat := rfl
  unfold String.utf8EncodeChar byteNumbers
  dsimp only
  rw [hv]
  generalize c.toNat = code at *
  have hbyte : ∀ n, n < 256 → (UInt8.ofNat n).toNat = n := fun n hn => UInt8.toNat_ofNat_of_lt' hn
  by_cases hone : code < 0x80
  · rw [if_pos (by omega), if_pos hone, List.map_singleton, hbyte _ (by omega)]
  · rw [if_neg (by omega), if_neg hone]
    by_cases htwo : code < 0x800
    · have hlead : code / 64 % 32 = code / 64 := by omega
      rw [if_pos (by omega), if_pos htwo]
      simp only [List.map_cons, List.map_nil, hlead]
      rw [hbyte _ (by omega), hbyte _ (by omega)]
    · rw [if_neg (by omega), if_neg htwo]
      by_cases hthree : code < 0x10000
      · have hlead : code / 4096 % 16 = code / 4096 := by omega
        rw [if_pos (by omega), if_pos hthree]
        simp only [List.map_cons, List.map_nil, hlead]
        rw [hbyte _ (by omega), hbyte _ (by omega), hbyte _ (by omega)]
      · have hlead : code / 262144 % 8 = code / 262144 := by omega
        rw [if_neg (by omega), if_neg hthree]
        simp only [List.map_cons, List.map_nil, hlead]
        rw [hbyte _ (by omega), hbyte _ (by omega), hbyte _ (by omega), hbyte _ (by omega)]

/-- The number of the character of a first byte and the bytes behind it. -/
def Encodes (byte : UInt8) (tail : List UInt8) (code : Nat) : Prop :=
  ∃ lead ranges, continuationRanges byte = some (lead, ranges) ∧
    List.Forall₂ InRange ranges tail ∧ joined lead tail = code

/-- The bytes of a character are read as its number. -/
theorem encodes_of_byteNumbers {byte : UInt8} {tail : List UInt8} {code : Nat}
    (hvalid : code.isValidChar) (h : (byte :: tail).map UInt8.toNat = byteNumbers code) :
    Encodes byte tail code := by
  simp only [Nat.isValidChar] at hvalid
  unfold byteNumbers at h
  split at h
  · simp only [List.map_cons, List.cons.injEq, List.map_eq_nil_iff] at h
    obtain ⟨hbyte, rfl⟩ := h
    refine ⟨byte.toNat, [], continuationRanges_one (by omega), .nil, ?_⟩
    rw [joined_nil, hbyte]
  · split at h
    · simp only [List.map_cons, List.cons.injEq, List.map_eq_cons_iff, List.map_eq_nil_iff] at h
      obtain ⟨hbyte, b, _, rfl, hb, rfl⟩ := h
      refine ⟨code / 64, [anySix], continuationRanges_two hbyte (by omega) (by omega),
        .cons ?_ .nil, ?_⟩
      · rw [inRange_anySix]
        omega
      · rw [joined_cons, joined_nil, shifted_of_toNat hb]
        omega
    · split at h
      · simp only [List.map_cons, List.cons.injEq, List.map_eq_cons_iff, List.map_eq_nil_iff] at h
        obtain ⟨hbyte, b, _, rfl, hb, b', _, rfl, hb', rfl⟩ := h
        refine ⟨code / 4096, [secondOfThree (code / 4096), anySix],
          continuationRanges_three hbyte (by omega), .cons ?_ (.cons ?_ .nil), ?_⟩
        · rw [inRange_secondOfThree, inRange_anySix]
          omega
        · rw [inRange_anySix]
          omega
        · rw [joined_cons, joined_cons, joined_nil, shifted_of_toNat hb, shifted_of_toNat hb']
          omega
      · simp only [List.map_cons, List.cons.injEq, List.map_eq_cons_iff, List.map_eq_nil_iff] at h
        obtain ⟨hbyte, b, _, rfl, hb, b', _, rfl, hb', b'', _, rfl, hb'', rfl⟩ := h
        refine ⟨code / 262144, [secondOfFour (code / 262144), anySix, anySix],
          continuationRanges_four hbyte (by omega), .cons ?_ (.cons ?_ (.cons ?_ .nil)), ?_⟩
        · rw [inRange_secondOfFour, inRange_anySix]
          omega
        · rw [inRange_anySix]
          omega
        · rw [inRange_anySix]
          omega
        · rw [joined_cons, joined_cons, joined_cons, joined_nil, shifted_of_toNat hb,
            shifted_of_toNat hb', shifted_of_toNat hb'']
          omega

/-- What is read as a number is the bytes of its character. -/
theorem byteNumbers_of_encodes {byte : UInt8} {tail : List UInt8} {code : Nat}
    (h : Encodes byte tail code) :
    code.isValidChar ∧ (byte :: tail).map UInt8.toNat = byteNumbers code := by
  obtain ⟨lead, ranges, hfirst, htail, hcode⟩ := h
  simp only [Nat.isValidChar]
  rcases continuationRanges_cases hfirst with
    ⟨hbyte, hlt, rfl⟩ | ⟨hbyte, hlow, hhigh, rfl⟩ | ⟨hbyte, hhigh, rfl⟩ | ⟨hbyte, hhigh, rfl⟩
  · cases htail
    rw [joined_nil] at hcode
    subst hcode
    refine ⟨by omega, ?_⟩
    rw [byteNumbers, if_pos hlt, List.map_singleton, hbyte]
  · cases htail with
    | @cons _ b _ _ h htail =>
    cases htail
    rw [inRange_anySix] at h
    obtain ⟨six, hb⟩ : ∃ six, b.toNat = six + 0x80 := ⟨b.toNat - 0x80, by omega⟩
    rw [joined_cons, joined_nil, shifted_of_toNat hb] at hcode
    have hdiv : code / 64 = lead := by omega
    have hmod : code % 64 = six := by omega
    refine ⟨by omega, ?_⟩
    rw [byteNumbers, if_neg (by omega), if_pos (by omega), hdiv, hmod, List.map_cons,
      List.map_singleton, hbyte, hb]
  · cases htail with
    | @cons _ b _ _ h htail =>
    cases htail with
    | @cons _ b' _ _ h' htail =>
    cases htail
    rw [inRange_secondOfThree, inRange_anySix] at h
    rw [inRange_anySix] at h'
    obtain ⟨six, hb⟩ : ∃ six, b.toNat = six + 0x80 := ⟨b.toNat - 0x80, by omega⟩
    obtain ⟨six', hb'⟩ : ∃ six, b'.toNat = six + 0x80 := ⟨b'.toNat - 0x80, by omega⟩
    rw [joined_cons, joined_cons, joined_nil, shifted_of_toNat hb, shifted_of_toNat hb'] at hcode
    have hlead : code / 4096 = lead := by omega
    have hdiv : code / 64 % 64 = six := by omega
    have hmod : code % 64 = six' := by omega
    refine ⟨by omega, ?_⟩
    rw [byteNumbers, if_neg (by omega), if_neg (by omega), if_pos (by omega), hlead, hdiv, hmod,
      List.map_cons, List.map_cons, List.map_singleton, hbyte, hb, hb']
  · cases htail with
    | @cons _ b _ _ h htail =>
    cases htail with
    | @cons _ b' _ _ h' htail =>
    cases htail with
    | @cons _ b'' _ _ h'' htail =>
    cases htail
    rw [inRange_secondOfFour, inRange_anySix] at h
    rw [inRange_anySix] at h' h''
    obtain ⟨six, hb⟩ : ∃ six, b.toNat = six + 0x80 := ⟨b.toNat - 0x80, by omega⟩
    obtain ⟨six', hb'⟩ : ∃ six, b'.toNat = six + 0x80 := ⟨b'.toNat - 0x80, by omega⟩
    obtain ⟨six'', hb''⟩ : ∃ six, b''.toNat = six + 0x80 := ⟨b''.toNat - 0x80, by omega⟩
    rw [joined_cons, joined_cons, joined_cons, joined_nil, shifted_of_toNat hb,
      shifted_of_toNat hb', shifted_of_toNat hb''] at hcode
    have hlead : code / 262144 = lead := by omega
    have hsecond : code / 4096 % 64 = six := by omega
    have hdiv : code / 64 % 64 = six' := by omega
    have hmod : code % 64 = six'' := by omega
    refine ⟨by omega, ?_⟩
    rw [byteNumbers, if_neg (by omega), if_neg (by omega), if_neg (by omega), hlead, hsecond, hdiv,
      hmod, List.map_cons, List.map_cons, List.map_cons, List.map_singleton, hbyte, hb, hb', hb'']

theorem eq_utf8EncodeChar {bytes : List UInt8} {c : Char}
    (h : bytes.map UInt8.toNat = byteNumbers c.toNat) : bytes = String.utf8EncodeChar c := by
  rw [← toNat_utf8EncodeChar] at h
  exact List.map_injective_iff.mpr (fun _ _ => UInt8.toNat_inj.mp) h

/-- The bytes at the front of a text are read as a character exactly if they are
its encoding. -/
theorem front_eq_chars_iff {byte : UInt8} {bytes : List UInt8} {cs : List Char} {more : Nat} :
    front byte bytes = .chars cs more () ↔ ∃ c tail rest, bytes = tail ++ rest ∧
      String.utf8EncodeChar c = byte :: tail ∧ more = tail.length ∧ cs = [c] := by
  constructor
  · intro h
    unfold front at h
    split at h
    · cases h
    · rename_i lead ranges hfirst
      obtain ⟨tail, rest, hbytes, hranges, hmore, hcs⟩ := continuation_eq_chars_iff.mp h
      obtain ⟨hvalid, hnumbers⟩ :=
        byteNumbers_of_encodes ⟨lead, ranges, hfirst, hranges, rfl⟩
      have hnumber : (Char.ofNat (joined lead tail)).toNat = joined lead tail := by
        rw [Char.ofNat, dif_pos hvalid]
        rfl
      rw [← hnumber] at hnumbers
      exact ⟨_, tail, rest, hbytes, (eq_utf8EncodeChar hnumbers).symm, by omega, hcs⟩
  · rintro ⟨c, tail, rest, rfl, hc, rfl, rfl⟩
    have hnumbers := toNat_utf8EncodeChar c
    rw [hc] at hnumbers
    obtain ⟨lead, ranges, hfirst, hranges, hcode⟩ := encodes_of_byteNumbers c.valid hnumbers
    rw [front, hfirst]
    refine continuation_eq_chars_iff.mpr ⟨tail, rest, rfl, hranges, (Nat.zero_add _).symm, ?_⟩
    rw [hcode]
    exact congrArg (fun c => [c]) c.ofNat_toNat.symm

theorem front_ne_stop (byte : UInt8) (bytes : List UInt8) : front byte bytes ≠ .stop := by
  unfold front
  split
  · exact nofun
  · exact continuation_ne_stop _ _ _ _

theorem openFront_of_front {byte : UInt8} {bytes : List UInt8} {cs : List Char} {more : Nat}
    (h : front byte bytes = .chars cs more ()) : openFront byte bytes = .chars cs more () := by
  rw [openFront, h]

/-! ## Texts -/

/-- The bytes of a text. -/
def encode (cs : List Char) : List UInt8 :=
  cs.flatMap String.utf8EncodeChar

theorem encode_toList (text : String) : text.toUTF8.data.toList = encode text.toList := by
  rw [String.toUTF8_eq_toByteArray, ← String.utf8Encode_toList, List.utf8Encode,
    List.data_toByteArray, encode]

theorem exists_utf8EncodeChar_eq_cons (c : Char) :
    ∃ byte tail, String.utf8EncodeChar c = byte :: tail := by
  have hlength := String.length_utf8EncodeChar c
  have hsize := c.utf8Size_pos
  cases h : String.utf8EncodeChar c with
  | nil =>
    rw [h, List.length_nil] at hlength
    omega
  | cons byte tail => exact ⟨byte, tail, rfl⟩

theorem encode_cons {c : Char} {byte : UInt8} {tail : List UInt8}
    (h : String.utf8EncodeChar c = byte :: tail) (cs : List Char) :
    encode (c :: cs) = byte :: (tail ++ encode cs) := by
  simp only [encode, List.flatMap_cons, h, List.cons_append]

section Decoding

variable {read : UInt8 → List UInt8 → Front Unit} {lenient : Bool}

/-- A reader that knows the encodings of characters reads every text. -/
theorem decodeFrom_encode (charset : String) (hread : ∀ {byte bytes cs more},
      front byte bytes = .chars cs more () → read byte bytes = .chars cs more ())
    (cs : List Char) (position : Nat) (before : List Char) :
    decodeFrom charset (fun _ => read) lenient () position before (encode cs) =
      .ok (before.reverse ++ cs) := by
  induction cs generalizing position before with
  | nil => rw [encode, List.flatMap_nil, decodeFrom, List.append_nil]
  | cons c cs ih =>
    obtain ⟨byte, tail, hc⟩ := exists_utf8EncodeChar_eq_cons c
    have hfront : read byte (tail ++ encode cs) = .chars [c] tail.length () :=
      hread (front_eq_chars_iff.mpr ⟨c, tail, encode cs, rfl, hc, rfl, rfl⟩)
    rw [encode_cons hc, decodeFrom, hfront]
    simp only [List.drop_left, ih, List.reverse_cons, List.reverse_nil, List.nil_append,
      List.cons_append, List.append_assoc]

/-- What a strict reader reads is the encoding of a text. -/
theorem eq_encode_of_decodeFrom (charset : String) (bytes : List UInt8) (position : Nat)
    (before cs : List Char)
    (h : decodeFrom charset (fun _ => front) false () position before bytes = .ok cs) :
    ∃ more, cs = before.reverse ++ more ∧ bytes = encode more := by
  induction hlength : bytes.length using Nat.strongRecOn
    generalizing bytes position before with
  | ind length ih =>
    cases bytes with
    | nil =>
      rw [decodeFrom] at h
      exact ⟨[], by rw [List.append_nil, Except.ok.inj h], rfl⟩
    | cons byte bytes =>
      rw [decodeFrom] at h
      cases hfront : front byte bytes with
      | stop => exact absurd hfront (front_ne_stop byte bytes)
      | fault more reason =>
        rw [hfront] at h
        cases h
      | chars found more state =>
        rw [hfront] at h
        obtain ⟨c, tail, rest, rfl, hc, rfl, rfl⟩ := front_eq_chars_iff.mp hfront
        simp only [List.drop_left] at h
        simp only [List.length_cons, List.length_append] at hlength
        obtain ⟨more, rfl, rfl⟩ := ih rest.length (by omega) rest _ _ h rfl
        exact ⟨c :: more, by simp, (encode_cons hc more).symm⟩

end Decoding

/-- Whatever the reading, the encoding of a text is read as the text. -/
theorem decode_encode (reading : Reading) (cs : List Char) :
    decode reading (encode cs) = .ok cs := by
  unfold decode decodeEach
  split
  · exact decodeFrom_encode name openFront_of_front cs 0 []
  · exact decodeFrom_encode name id cs 0 []

/-- The bytes that a strict reading accepts are the encodings of texts. -/
theorem decode_strict_eq_ok_iff {bytes : List UInt8} {cs : List Char} :
    decode .strict bytes = .ok cs ↔ bytes = encode cs := by
  constructor
  · intro h
    obtain ⟨more, rfl, rfl⟩ := eq_encode_of_decodeFrom name bytes 0 [] cs h
    rfl
  · rintro rfl
    exact decode_encode .strict cs

end LineArithmetic.Charset.Utf8
