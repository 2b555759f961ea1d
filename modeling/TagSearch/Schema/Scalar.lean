import TagSearch.Schema.Checked
import TagSearch.Schema.Notation

/-!
# Scalars

How lenient each kind of scalar is.  A whole number may be written as a truth value, as a
floating-point number without fraction or as a text; a truth value as a number or a word; a text
only as a text.  `strictInteger` takes whole numbers alone.
-/

namespace TagSearch

namespace Scalar

/-- Whether a whole number fits into 64 bits with a sign. -/
def fits64 (n : Int) : Bool := -9223372036854775808 ≤ n && n ≤ 9223372036854775807

/-- Whether a floating-point number with a whole value fits: the least number of 64 bits does not
count, as rounding could have led to it. -/
def floatFits64 (n : Int) : Bool := -9223372036854775808 < n && fits64 n

/-- A text, if it has nothing but characters. -/
def unicode (t : Text) : Except Cause String :=
  match t.toString? with
  | some s => .ok s
  | none => .error .notUnicode

/-- A whole number, or what counts as one. -/
def integer : Json → Except Cause Int
  | .int n => .ok n
  | .bool b => .ok (if b then 1 else 0)
  | .float x =>
    if !x.isFinite then .error .notFinite
    else
      match x.toInt? with
      | none => .error .fractional
      | some n => if floatFits64 n then .ok n else .error .oversized
  | .str t => unicode t >>= Notation.integerOfText
  | _ => .error .notInteger

/-- A whole number and nothing else. -/
def strictInteger : Json → Except Cause Int
  | .int n => .ok n
  | _ => .error .notInteger

/-- A text. -/
def text : Json → Except Cause Text
  | .str t => .ok t
  | _ => .error .notString

/-- A text of characters. -/
def string (v : Json) : Except Cause String := text v >>= unicode

/-- The words for true. -/
def trueWords : List String := ["1", "true", "t", "yes", "y", "on"]

/-- The words for false. -/
def falseWords : List String := ["0", "false", "f", "no", "n", "off"]

/-- A text with the capital letters of ASCII made small. -/
def asciiLower (s : String) : String := String.ofList (s.toList.map Char.toLower)

/-- The truth value that a whole number stands for. -/
def booleanOfInt (n : Int) : Except Cause Bool :=
  if n = 0 then .ok false else if n = 1 then .ok true else .error .unreadableBoolean

/-- The truth value that a word stands for. -/
def booleanOfText (s : String) : Except Cause Bool :=
  let word := asciiLower s
  if trueWords.contains word then .ok true
  else if falseWords.contains word then .ok false
  else .error .unreadableBoolean

/-- A truth value, or what counts as one.  Numbers of more than 64 bits are not even tried. -/
def boolean : Json → Except Cause Bool
  | .bool b => .ok b
  | .int n => if fits64 n then booleanOfInt n else .error .notBoolean
  | .float x =>
    match x.toInt? with
    | some n => if floatFits64 n then booleanOfInt n else .error .notBoolean
    | none => .error .notBoolean
  | .str t => unicode t >>= booleanOfText
  | _ => .error .notBoolean

/-- A number.  A whole number that overflows the format is none. -/
def number : Json → Except Cause Binary64
  | .float x => .ok x
  | .int n =>
    let x := Binary64.ofInt n
    if x.isFinite then .ok x else .error .notNumber
  | .bool b => .ok (.ofInt (if b then 1 else 0))
  | .str t => do
    match Notation.numberOfText? (← unicode t) with
    | some x => .ok x
    | none => .error .unreadableNumber
  | _ => .error .notNumber

/-- A bound on a whole number, checked after it was read. -/
def atLeast (least : Int) (n : Int) : Except Cause Int :=
  if least ≤ n then .ok n else .error (.below least)

/-- An upper bound, likewise. -/
def atMost (greatest : Int) (n : Int) : Except Cause Int :=
  if n ≤ greatest then .ok n else .error (.above greatest)

/-- A bound that the number has to exceed. -/
def moreThan (bound : Int) (n : Int) : Except Cause Int :=
  if bound < n then .ok n else .error (.notAbove bound)

/-- A reading that goes on after another one succeeds when both do. -/
theorem of_bind_eq_ok {ε α β : Type} {x : Except ε α} {f : α → Except ε β} {b : β}
    (h : x >>= f = .ok b) : ∃ a, x = .ok a ∧ f a = .ok b := by
  cases x with
  | error e => cases h
  | ok a => exact ⟨a, rfl, h⟩

/-- A floating-point number counts as a whole number of at most 64 bits. -/
theorem natAbs_le_of_integer_float {x : Binary64} {n : Int} (h : integer (.float x) = .ok n) :
    n.natAbs ≤ 9223372036854775808 := by
  rw [integer] at h
  split at h
  · cases h
  · split at h
    · cases h
    · split at h
      · rename_i hfits
        obtain rfl := Except.ok.inj h
        simp only [floatFits64, fits64, Bool.and_eq_true, decide_eq_true_eq] at hfits
        omega
      · cases h

/-- A number that passes a least bound keeps to it and is not changed. -/
theorem of_atLeast_eq_ok {least n k : Int} (h : atLeast least n = .ok k) : least ≤ n ∧ n = k := by
  unfold atLeast at h
  split at h
  · exact ⟨‹_›, Except.ok.inj h⟩
  · cases h

/-- A number that passes a greatest bound keeps to it and is not changed. -/
theorem of_atMost_eq_ok {greatest n k : Int} (h : atMost greatest n = .ok k) :
    n ≤ greatest ∧ n = k := by
  unfold atMost at h
  split at h
  · exact ⟨‹_›, Except.ok.inj h⟩
  · cases h

end Scalar

namespace Checked

/-- A whole number, or what counts as one. -/
def integer (v : Json) : Checked Int := ofCause (Scalar.integer v)

/-- A whole number of at least `least`. -/
def integerFrom (least : Int) (v : Json) : Checked Int :=
  ofCause (Scalar.integer v >>= Scalar.atLeast least)

/-- A whole number between two bounds. -/
def integerBetween (least greatest : Int) (v : Json) : Checked Int :=
  ofCause (Scalar.integer v >>= Scalar.atLeast least >>= Scalar.atMost greatest)

/-- A whole number and nothing else. -/
def strictInteger (v : Json) : Checked Int := ofCause (Scalar.strictInteger v)

/-- A text. -/
def text (v : Json) : Checked Text := ofCause (Scalar.text v)

/-- A text of characters. -/
def string (v : Json) : Checked String := ofCause (Scalar.string v)

/-- A truth value, or what counts as one. -/
def boolean (v : Json) : Checked Bool := ofCause (Scalar.boolean v)

/-- Reads a text as strict JSON and then the value; a text that cannot be read is a single issue. -/
def ofText {α : Type} (read : Json → Checked α) (text : String) : Checked α :=
  match Json.readText .strict text.toList with
  | .ok v => read v
  | .error _ => fail .unreadableJson

/-- A whole number from the bound on is accepted as it is. -/
theorem integerFrom_int {least n : Int} (h : least ≤ n) :
    integerFrom least (.int n) = .accepted n := by
  show ofCause (Scalar.atLeast least n) = _
  rw [Scalar.atLeast, if_pos h]
  rfl

/-- A strict field takes a whole number as it stands and nothing else. -/
theorem strictInteger_eq_accepted_iff (v : Json) (n : Int) :
    strictInteger v = .accepted n ↔ v = .int n := by
  rw [strictInteger, ofCause_eq_accepted_iff]
  cases v <;> simp [Scalar.strictInteger]

/-- Whole numbers are read back from a list of them. -/
theorem list_integer_ints (ns : List Int) : list integer (Json.ints ns) = .accepted ns := by
  have hread : ∀ n : Int, integer (Json.int n) = .accepted n := fun _ => rfl
  exact each_map hread 0 ns

/-- What is accepted from a bound on keeps it. -/
theorem le_of_integerFrom {least n : Int} {v : Json} (h : integerFrom least v = .accepted n) :
    least ≤ n := by
  obtain ⟨k, _, hk⟩ := Scalar.of_bind_eq_ok (ofCause_eq_accepted_iff.mp h)
  obtain ⟨hle, rfl⟩ := Scalar.of_atLeast_eq_ok hk
  exact hle

/-- What is accepted between two bounds keeps both. -/
theorem between_of_integerBetween {least greatest n : Int} {v : Json}
    (h : integerBetween least greatest v = .accepted n) : least ≤ n ∧ n ≤ greatest := by
  obtain ⟨k, hk, hmost⟩ := Scalar.of_bind_eq_ok (ofCause_eq_accepted_iff.mp h)
  obtain ⟨_, _, hleast⟩ := Scalar.of_bind_eq_ok hk
  obtain ⟨hle, rfl⟩ := Scalar.of_atLeast_eq_ok hleast
  obtain ⟨hge, rfl⟩ := Scalar.of_atMost_eq_ok hmost
  exact ⟨hle, hge⟩

end Checked

end TagSearch
