/-!
# Texts

A `String` holds characters, and a surrogate is none.  JSON can write half of a surrogate pair by
itself all the same, so a `Text` is a string in which surrogates may stand between characters.
A string is the text without any.

`Text.encodingFault?` says where a text has no encoding, which is at its first surrogate:
`encodingFault?_eq_none_iff`.
-/

namespace TagSearch

/-- One of the 2048 code points that stand for half of a pair. -/
structure Surrogate where
  offset : Fin 0x800
  deriving DecidableEq, Repr

namespace Surrogate

/-- The code point. -/
def code (s : Surrogate) : Nat := 0xd800 + s.offset.val

/-- The surrogate with a code point. -/
def ofCode? (n : Nat) : Option Surrogate :=
  if h : 0xd800 ≤ n ∧ n < 0xe000 then some ⟨⟨n - 0xd800, by omega⟩⟩ else none

/-- Only a surrogate has its code point. -/
theorem ofCode?_eq_some_iff {n : Nat} {s : Surrogate} : ofCode? n = some s ↔ s.code = n := by
  obtain ⟨i, hi⟩ := s
  unfold ofCode? code
  constructor
  · intro h
    split at h
    · simp only [Option.some.injEq, Surrogate.mk.injEq, Fin.mk.injEq] at h
      simp only
      omega
    · exact absurd h (by simp)
  · rintro rfl
    simp only
    rw [dif_pos (by omega)]
    simp

end Surrogate

/-- A character, or half of a pair in its place. -/
inductive CodePoint
  | char (c : Char)
  | lone (s : Surrogate)
  deriving DecidableEq, Repr

/-- Whether a code point is a character. -/
def CodePoint.isChar : CodePoint → Bool
  | .char _ => true
  | .lone _ => false

/-- Characters, with surrogates between them. -/
structure Text where
  /-- The characters before the first surrogate. -/
  opening : String
  /-- The surrogates, each with the characters behind it. -/
  broken : List (Surrogate × String) := []
  deriving DecidableEq, Repr, Inhabited

/-- Why a text has no encoding: its first surrogates in a row, and how many characters stand before
them. -/
structure EncodingFault where
  start : Nat
  code : Nat
  count : Nat
  deriving DecidableEq, Repr

namespace Text

/-- A string is a text without surrogates. -/
def ofString (s : String) : Text := ⟨s, []⟩

instance : Coe String Text := ⟨ofString⟩

/-- Different strings are different texts. -/
@[simp] theorem ofString_inj {s t : String} : ofString s = ofString t ↔ s = t := by
  simp [ofString]

/-- The string, if the text is one. -/
def toString? (t : Text) : Option String := if t.broken.isEmpty then some t.opening else none

/-- A string comes back. -/
@[simp] theorem toString?_ofString (s : String) : toString? (ofString s) = some s := rfl

/-- Only a string has itself as its string. -/
theorem toString?_eq_some_iff {t : Text} {s : String} : t.toString? = some s ↔ t = ofString s := by
  obtain ⟨opening, broken⟩ := t
  cases broken <;> simp [toString?, ofString]

/-- The characters of a string as code points. -/
def charPoints (s : String) : List CodePoint := s.toList.map .char

/-- The code points in order. -/
def codePoints (t : Text) : List CodePoint :=
  charPoints t.opening ++ t.broken.flatMap fun part => .lone part.1 :: charPoints part.2

/-- The text of code points. -/
def ofCodePoints (points : List CodePoint) : Text :=
  let (opening, broken) := points.foldr
    (fun point (chars, broken) =>
      match point with
      | .char c => (c :: chars, broken)
      | .lone s => ([], (s, String.ofList chars) :: broken))
    (([] : List Char), ([] : List (Surrogate × String)))
  ⟨String.ofList opening, broken⟩

/-- The text of a character and code points behind it. -/
theorem ofCodePoints_char (c : Char) (points : List CodePoint) :
    ofCodePoints (.char c :: points) =
      ⟨String.ofList (c :: (ofCodePoints points).opening.toList), (ofCodePoints points).broken⟩ := by
  simp only [ofCodePoints, List.foldr_cons, String.toList_ofList]

/-- The text of a surrogate and code points behind it. -/
theorem ofCodePoints_lone (s : Surrogate) (points : List CodePoint) :
    ofCodePoints (.lone s :: points) =
      ⟨"", (s, (ofCodePoints points).opening) :: (ofCodePoints points).broken⟩ := by
  simp only [ofCodePoints, List.foldr_cons]

/-- The text of code points has these and no others. -/
@[simp] theorem codePoints_ofCodePoints (points : List CodePoint) :
    (ofCodePoints points).codePoints = points := by
  induction points with
  | nil => rfl
  | cons point rest ih =>
    cases point with
    | char c =>
      rw [ofCodePoints_char, codePoints, charPoints, String.toList_ofList, List.map_cons,
        List.cons_append]
      exact congrArg (.char c :: ·) ih
    | lone s =>
      rw [ofCodePoints_lone]
      exact congrArg (.lone s :: ·) ih

/-- The characters in order, without the surrogates. -/
def chars (t : Text) : List Char :=
  t.codePoints.filterMap fun point =>
    match point with
    | .char c => some c
    | .lone _ => none

/-- Whether a text has no code points at all. -/
def isEmpty (t : Text) : Bool := t.broken.isEmpty && t.opening.isEmpty

/-- Each code point as a text of its own. -/
def elements (t : Text) : List Text := t.codePoints.map fun point => ofCodePoints [point]

/-- Where a text has no encoding. -/
def encodingFault? (t : Text) : Option EncodingFault :=
  match t.codePoints.dropWhile CodePoint.isChar with
  | .lone s :: rest =>
    some ⟨(t.codePoints.takeWhile CodePoint.isChar).length, s.code,
      (rest.takeWhile (!·.isChar)).length + 1⟩
  | _ => none

/-- The characters of a string are characters. -/
theorem dropWhile_charPoints (s : String) (rest : List CodePoint) :
    (charPoints s ++ rest).dropWhile CodePoint.isChar = rest.dropWhile CodePoint.isChar := by
  unfold charPoints
  induction s.toList with
  | nil => rfl
  | cons c cs ih =>
    rw [List.map_cons, List.cons_append, List.dropWhile_cons_of_pos rfl]
    exact ih

/-- A text has an encoding exactly when it is a string. -/
theorem encodingFault?_eq_none_iff {t : Text} :
    t.encodingFault? = none ↔ ∃ s : String, t = ofString s := by
  obtain ⟨opening, broken⟩ := t
  unfold encodingFault? codePoints
  rw [dropWhile_charPoints]
  cases broken with
  | nil => simp [ofString]
  | cons part rest => simp [CodePoint.isChar, ofString]

/-- A string has an encoding. -/
@[simp] theorem encodingFault?_ofString (s : String) : (ofString s).encodingFault? = none :=
  encodingFault?_eq_none_iff.mpr ⟨s, rfl⟩

end Text

/-- A fault in words. -/
def EncodingFault.message (f : EncodingFault) : String :=
  let subject :=
    if f.count = 1 then
      "character '\\u" ++ String.ofList (Nat.toDigits 16 f.code) ++ "' in position " ++ toString f.start
    else s!"characters in position {f.start}-{f.start + f.count - 1}"
  "'utf-8' codec can't encode " ++ subject ++ ": surrogates not allowed"

end TagSearch
