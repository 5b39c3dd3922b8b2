import LineArithmetic.Proofs.Json.Strings
import LineArithmetic.Submission

/-!
# Accepted documents

Submitted data hold a document if they are an object with a member `document` that is a
string, or a number, which is taken as it is written (`Holds`).  The document is accepted
if it has no null character and is not too long.

Data that are refused have a first problem.  `FirstProblem` names it without following the
checks: each problem by what is wrong with the data, and by what is right with them, since
no earlier problem may apply.

* `accept_of_holds`: what becomes of a document that the data hold.
* `accept_of_firstProblem`: the first problem is told, and no other one.
* `accepted_or_firstProblem`: data hold a document that is accepted, or have a first
  problem.  This is where strings need to be free of surrogates: a string with one is taken
  for no document, but another problem is told than that of a wrong type.
-/

namespace LineArithmetic

namespace Text

theorem codePoints_injective : Function.Injective codePoints :=
  Function.LeftInverse.injective ofCodePoints_codePoints

theorem length_codePoints (text : String) : (codePoints text).length = text.length := by
  rw [codePoints, List.length_map, String.length_toList]

/-- A code point that is no half of a pair is that of a character. -/
theorem CodePoint.exists_ofChar {p : CodePoint} (h : p.isSurrogate = false) :
    ∃ c, ofChar c = p := by
  have hlt := p.isLt
  have hvalid : p.val.isValidChar := by
    simp only [isSurrogate, isHighSurrogate, isLowSurrogate, Bool.or_eq_false_iff,
      decide_eq_false_iff_not] at h
    unfold Nat.isValidChar
    omega
  refine ⟨Char.ofNat p.val, Fin.ext ?_⟩
  rw [val_ofChar, Char.ofNat, dif_pos hvalid]
  rfl

/-- Code points without halves of pairs are those of a text. -/
theorem exists_codePoints_eq {points : List CodePoint}
    (h : ∀ p ∈ points, p.isSurrogate = false) : ∃ text, codePoints text = points := by
  induction points with
  | nil => exact ⟨"", rfl⟩
  | cons p points ih =>
    obtain ⟨c, hc⟩ := CodePoint.exists_ofChar (h p List.mem_cons_self)
    obtain ⟨text, htext⟩ := ih fun q hq => h q (List.mem_cons_of_mem p hq)
    refine ⟨String.ofList (c :: text.toList), ?_⟩
    rw [codePoints, String.toList_ofList, List.map_cons, hc, ← htext, codePoints]

/-- A text has no surrogate. -/
theorem isSurrogate_of_mem_codePoints {text : String} {p : CodePoint}
    (h : p ∈ codePoints text) : p.isSurrogate = false := by
  obtain ⟨c, -, rfl⟩ := List.mem_map.mp h
  exact CodePoint.isSurrogate_ofChar c

theorem exists_zero_mem_codePoints_iff {text : String} :
    (∃ p ∈ codePoints text, p.val = 0) ↔ '\x00' ∈ text.toList := by
  constructor
  · rintro ⟨p, hp, hzero⟩
    obtain ⟨c, hc, rfl⟩ := List.mem_map.mp hp
    rw [CodePoint.val_ofChar] at hzero
    have hchar : c = '\x00' := Char.toNat_inj.mp hzero
    rwa [hchar] at hc
  · intro hmem
    exact ⟨CodePoint.ofChar '\x00', List.mem_map_of_mem hmem, rfl⟩

end Text

namespace Submission

open Text

/-! ## Data that hold a document -/

/-- Whether a value is taken for a document: a string for its text, and a number for how it
is written. -/
inductive IsTakenFor : Json → String → Prop where
  | string (text : String) : IsTakenFor (.ofText text) text
  | int (n : Int) : IsTakenFor (.int n) (toString n)
  | float (x : Binary64) : IsTakenFor (.float x) x.text

/-- Whether data hold a document. -/
def Holds (data : Json) (document : String) : Prop :=
  ∃ member, data.member? "document" = some member ∧ IsTakenFor member document

/-- The first thing that is wrong with data. -/
inductive FirstProblem (limit : Int) : Json → Problem → Prop where
  | noData : FirstProblem limit .null .noData
  | notAnObject {data : Json} (hnull : data ≠ .null) (hobject : ∀ members, data ≠ .object members) :
      FirstProblem limit data (.notAnObject (typeName data))
  | missing {members : List (List CodePoint × Json)}
      (hmember : (Json.object members).member? "document" = none) :
      FirstProblem limit (.object members) .missing
  | isNull {data : Json} (hmember : data.member? "document" = some .null) :
      FirstProblem limit data .isNull
  | notText {data member : Json} (hmember : data.member? "document" = some member)
      (hnull : member ≠ .null) (hstring : ∀ points, member ≠ .string points)
      (htaken : ∀ document, ¬ IsTakenFor member document) : FirstProblem limit data .notText
  | nullCharacter {data : Json} {document : String} (hholds : Holds data document)
      (hnull : '\x00' ∈ document.toList) : FirstProblem limit data .nullCharacter
  | tooLong {data : Json} {document : String} (hholds : Holds data document)
      (hnull : '\x00' ∉ document.toList) (hlong : limit < document.length) :
      FirstProblem limit data (.tooLong limit)

section Accept

variable {limit : Int} {data member : Json} {document : String} {problem : Problem}

/-- Only objects have members. -/
theorem exists_object_of_member? (hmember : data.member? "document" = some member) :
    ∃ members, data = .object members := by
  cases data with
  | object members => exact ⟨members, rfl⟩
  | null | bool | int | float | string | array => cases hmember

theorem accept_of_member? (hmember : data.member? "document" = some member) :
    accept limit data = acceptMember limit (some member) := by
  obtain ⟨members, rfl⟩ := exists_object_of_member? hmember
  rw [accept, hmember]

theorem characterProblems_codePoints (document : String) :
    characterProblems (codePoints document) =
      if '\x00' ∈ document.toList then [.nullCharacter] else [] := by
  have hfind : (codePoints document).find? CodePoint.isSurrogate = none := by
    rw [List.find?_eq_none]
    intro p hp
    rw [isSurrogate_of_mem_codePoints hp]
    exact Bool.false_ne_true
  have hany : ((codePoints document).any fun p => p.val = 0) =
      decide ('\x00' ∈ document.toList) := by
    rw [Bool.eq_iff_iff, List.any_eq_true, decide_eq_true_iff, ← exists_zero_mem_codePoints_iff]
    simp only [decide_eq_true_iff]
  rw [characterProblems, hfind, hany, List.append_nil]
  simp only [decide_eq_true_iff]

theorem acceptPoints_codePoints (limit : Int) (document : String) :
    acceptPoints limit (codePoints document) =
      if '\x00' ∈ document.toList then .error ⟨.nullCharacter, []⟩
      else if limit < document.length then .error ⟨.tooLong limit, []⟩ else .ok document := by
  rw [acceptPoints, characterProblems_codePoints]
  by_cases hnull : '\x00' ∈ document.toList
  · rw [if_pos hnull, if_pos hnull]
  · rw [if_neg hnull, if_neg hnull, length_codePoints, ofCodePoints_codePoints]

/-- What becomes of a document that the data hold. -/
theorem accept_of_holds (h : Holds data document) :
    accept limit data = if '\x00' ∈ document.toList then .error ⟨.nullCharacter, []⟩
      else if limit < document.length then .error ⟨.tooLong limit, []⟩ else .ok document := by
  obtain ⟨member, hmember, htaken⟩ := h
  rw [accept_of_member? hmember, ← acceptPoints_codePoints]
  cases htaken <;> rfl

/-- The first problem is told, and no other one. -/
theorem accept_of_firstProblem (h : FirstProblem limit data problem) :
    accept limit data = .error ⟨problem, []⟩ := by
  cases h with
  | noData => rfl
  | notAnObject hnull hobject =>
    cases data with
    | null => exact absurd rfl hnull
    | object members => exact absurd rfl (hobject members)
    | bool | int | float | string | array => rfl
  | missing hmember => rw [accept, hmember, acceptMember]
  | isNull hmember => rw [accept_of_member? hmember, acceptMember]
  | @notText _ member hmember hnull hstring htaken =>
    rw [accept_of_member? hmember]
    cases member with
    | null => exact absurd rfl hnull
    | string points => exact absurd rfl (hstring points)
    | int n => exact absurd (.int n) (htaken _)
    | float x => exact absurd (.float x) (htaken _)
    | bool | array | object => rfl
  | nullCharacter hholds hnull => rw [accept_of_holds hholds, if_pos hnull]
  | tooLong hholds hnull hlong => rw [accept_of_holds hholds, if_neg hnull, if_pos hlong]

theorem accept_eq_ok (hholds : Holds data document) (hnull : '\x00' ∉ document.toList)
    (hlength : (document.length : Int) ≤ limit) : accept limit data = .ok document := by
  rw [accept_of_holds hholds, if_neg hnull, if_neg (Int.not_lt.mpr hlength)]

/-- A member is taken for a document, or has a problem. -/
theorem holds_or_firstProblem (limit : Int) (hmember : data.member? "document" = some member)
    (hpaired : ∀ points, member = .string points → ∀ p ∈ points, p.isSurrogate = false) :
    (∃ document, Holds data document) ∨ ∃ problem, FirstProblem limit data problem := by
  cases member with
  | null => exact Or.inr ⟨_, .isNull hmember⟩
  | int n => exact Or.inl ⟨_, _, hmember, .int n⟩
  | float x => exact Or.inl ⟨_, _, hmember, .float x⟩
  | string points =>
    obtain ⟨text, rfl⟩ := exists_codePoints_eq (hpaired points rfl)
    exact Or.inl ⟨text, _, hmember, .string text⟩
  | bool | array | object => exact Or.inr ⟨_, .notText hmember nofun nofun nofun⟩

/-- Data hold a document that may be accepted, or have a first problem. -/
theorem accepted_or_firstProblem (limit : Int)
    (hpaired : ∀ points, data.member? "document" = some (.string points) →
      ∀ p ∈ points, p.isSurrogate = false) :
    (∃ document, Holds data document ∧ '\x00' ∉ document.toList ∧
      (document.length : Int) ≤ limit) ∨ ∃ problem, FirstProblem limit data problem := by
  cases hmember : data.member? "document" with
  | none =>
    cases data with
    | null => exact Or.inr ⟨_, .noData⟩
    | object members => exact Or.inr ⟨_, .missing hmember⟩
    | bool | int | float | string | array => exact Or.inr ⟨_, .notAnObject nofun nofun⟩
  | some member =>
    have hstring : ∀ points, member = .string points → ∀ p ∈ points, p.isSurrogate = false := by
      rintro points rfl
      exact hpaired points hmember
    rcases holds_or_firstProblem limit hmember hstring with ⟨document, hholds⟩ | hproblem
    · by_cases hnull : '\x00' ∈ document.toList
      · exact Or.inr ⟨_, .nullCharacter hholds hnull⟩
      · rcases Int.lt_or_le limit document.length with hlong | hlength
        · exact Or.inr ⟨_, .tooLong hholds hnull hlong⟩
        · exact Or.inl ⟨document, hholds, hnull, hlength⟩
    · exact Or.inr hproblem

/-- Only data that are no object have a problem as a whole. -/
theorem FirstProblem.field_eq_whole_iff (h : FirstProblem limit data problem) :
    problem.field = .whole ↔ ∀ members, data ≠ .object members := by
  have hobject : ∀ member, data.member? "document" = some member →
      ¬ ∀ members, data ≠ .object members := by
    intro member hmember hne
    obtain ⟨members, hmembers⟩ := exists_object_of_member? hmember
    exact hne members hmembers
  cases h with
  | noData => exact iff_of_true rfl nofun
  | notAnObject hnull hne => exact iff_of_true rfl hne
  | missing hmember => exact iff_of_false Field.noConfusion fun hne => hne _ rfl
  | isNull hmember | notText hmember =>
    exact iff_of_false Field.noConfusion (hobject _ hmember)
  | nullCharacter hholds | tooLong hholds =>
    obtain ⟨member, hmember, -⟩ := hholds
    exact iff_of_false Field.noConfusion (hobject member hmember)

end Accept

/-- Data are accepted exactly if they hold a document without a null character that is not
too long, and then the document is what they hold, character for character.  Else one
problem is told, the first one that the data have; it is about the data as a whole exactly
if they are no object.  Other members of an object do not matter. -/
theorem accept_outcome (limit : Int) (data : Json)
    (hpaired : ∀ points, data.member? "document" = some (.string points) →
      ∀ p ∈ points, p.isSurrogate = false) :
    (∀ document, accept limit data = .ok document ↔
      Holds data document ∧ '\x00' ∉ document.toList ∧ (document.length : Int) ≤ limit) ∧
    (∀ rejection, accept limit data = .error rejection ↔
      ∃ problem, FirstProblem limit data problem ∧ rejection = ⟨problem, []⟩) ∧
    (∀ rejection, accept limit data = .error rejection →
      (rejection.field = .whole ↔ ∀ members, data ≠ .object members)) ∧
    ∀ members others, data = .object members →
      (Json.object others).member? "document" = data.member? "document" →
      accept limit (.object others) = accept limit data := by
  have hrefused : ∀ rejection, accept limit data = .error rejection →
      ∃ problem, FirstProblem limit data problem ∧ rejection = ⟨problem, []⟩ := by
    intro rejection hrejection
    rcases accepted_or_firstProblem limit hpaired with ⟨document, hholds, hnull, hlength⟩ | ⟨problem, hproblem⟩
    · rw [accept_eq_ok hholds hnull hlength] at hrejection
      cases hrejection
    · rw [accept_of_firstProblem hproblem] at hrejection
      exact ⟨problem, hproblem, (Except.error.inj hrejection).symm⟩
  refine ⟨fun document => ⟨fun hok => ?_, ?_⟩, fun rejection => ⟨hrefused rejection, ?_⟩, ?_, ?_⟩
  · rcases accepted_or_firstProblem limit hpaired with ⟨held, hholds, hnull, hlength⟩ | ⟨problem, hproblem⟩
    · rw [accept_eq_ok hholds hnull hlength] at hok
      obtain rfl := Except.ok.inj hok
      exact ⟨hholds, hnull, hlength⟩
    · rw [accept_of_firstProblem hproblem] at hok
      cases hok
  · rintro ⟨hholds, hnull, hlength⟩
    exact accept_eq_ok hholds hnull hlength
  · rintro ⟨problem, hproblem, rfl⟩
    exact accept_of_firstProblem hproblem
  · intro rejection hrejection
    obtain ⟨problem, hproblem, rfl⟩ := hrefused rejection hrejection
    exact hproblem.field_eq_whole_iff
  · rintro members others rfl hmember
    rw [accept, accept, hmember]

/-- An object with two members `document`, of which the last one counts, and another
member. -/
def repeatedData (last : Json) : Json :=
  .ofMembers [("document", .ofText "1 + 2"), ("limit", .int 1), ("document", last)]

theorem member?_repeatedData (last : Json) :
    (repeatedData last).member? "document" = some last := by
  simp [repeatedData, Json.member?, Json.ofMembers]

/-- A number is taken as it is written, up to the limit; the null character is told before
the length. -/
theorem accept_repeatedData :
    accept 3 (repeatedData (.int (-12))) = .ok "-12" ∧
      accept 2 (repeatedData (.int (-12))) = .error ⟨.tooLong 2, []⟩ ∧
      accept 2 (repeatedData (.ofText "1\x00 ")) = .error ⟨.nullCharacter, []⟩ := by
  have hint : Holds (repeatedData (.int (-12))) "-12" :=
    ⟨_, member?_repeatedData _, .int (-12)⟩
  have hpaired : ∀ points, (repeatedData (.int (-12))).member? "document" = some (.string points) →
      ∀ p ∈ points, p.isSurrogate = false := by
    intro points hmember
    rw [member?_repeatedData] at hmember
    cases hmember
  obtain ⟨haccepted, -, -, -⟩ := accept_outcome 3 (repeatedData (.int (-12))) hpaired
  obtain ⟨-, hlong, -, -⟩ := accept_outcome 2 (repeatedData (.int (-12))) hpaired
  obtain ⟨-, hnull, -, -⟩ := accept_outcome 2 (repeatedData (.ofText "1\x00 ")) (by
    intro points hmember p hp
    rw [member?_repeatedData] at hmember
    obtain rfl := Json.string.inj (Option.some.inj hmember)
    exact isSurrogate_of_mem_codePoints hp)
  refine ⟨(haccepted _).mpr ⟨hint, by decide, by decide⟩, (hlong _).mpr ⟨_, ?_, rfl⟩,
    (hnull _).mpr ⟨_, ?_, rfl⟩⟩
  · exact .tooLong hint (by decide) (by decide)
  · exact .nullCharacter ⟨_, member?_repeatedData _, .string "1\x00 "⟩ (by decide)

end Submission

end LineArithmetic
