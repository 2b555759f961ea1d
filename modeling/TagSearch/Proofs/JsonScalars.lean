import TagSearch.Json.Printer
import TagSearch.Json.Reader

/-!
# Numbers and strings come back from their texts

`readAtom_intText` and `readString_writeString` say what a reader makes of a whole number and of a
string that a printer wrote, whatever stands behind them: the same value, and the text behind it
untouched.

A number has no closing mark, so `EndsNumber` says of the text behind it that it does not go on with
the number.  The only thing a reader can find wrong with a whole number is its length, which
`intFault?` names; a string has no such limit.  Strings are those of the layouts that escape nothing
but quotes, backslashes and control characters.
-/

namespace TagSearch

namespace Json

/-- Whether a number ends where a text begins: nothing that could belong to one comes next. -/
def EndsNumber : List Char → Prop
  | [] => True
  | c :: _ => isDigit c = false ∧ c ≠ '.' ∧ c ≠ 'e' ∧ c ≠ 'E'

/-- A whole number has a first digit, which is zero for zero alone. -/
theorem toDigits_eq_cons (n : Nat) :
    ∃ c cs, Nat.toDigits 10 n = c :: cs ∧ isDigit c = true ∧ (n ≠ 0 → c ≠ '0') := by
  induction n using Nat.strongRecOn with
  | ind n ih =>
      by_cases hlt : n < 10
      · have hdigit : ∀ k < 10, isDigit (Nat.digitChar k) = true ∧
            (k ≠ 0 → Nat.digitChar k ≠ '0') := by decide
        exact ⟨Nat.digitChar n, [], Nat.toDigits_of_lt_base hlt, hdigit n hlt⟩
      · obtain ⟨c, cs, hfront, hdigit, hne⟩ := ih (n / 10) (by omega)
        refine ⟨c, cs ++ [Nat.digitChar (n % 10)], ?_, hdigit, fun _ => hne (by omega)⟩
        rw [Nat.toDigits_of_base_le (by decide) (by omega), hfront]
        rfl

/-- A whole number is written with digits only. -/
theorem isDigit_of_mem_toDigits {n : Nat} {c : Char} (h : c ∈ Nat.toDigits 10 n) :
    isDigit c = true :=
  Nat.isDigit_of_mem_toDigits (by decide) (by decide) h

/-- What is no digit is none of them. -/
theorem ne_of_isDigit {c w : Char} (h : isDigit c = true) (hw : isDigit w = false) : c ≠ w := by
  rintro rfl
  exact Bool.false_ne_true (hw.symm.trans h)

/-- The reader takes exactly the digits that were written. -/
theorem spanDigits_toDigits (n : Nat) {rest : List Char} (hrest : EndsNumber rest) :
    spanDigits (Nat.toDigits 10 n ++ rest) = (Nat.toDigits 10 n, rest) := by
  have hall : ∀ c ∈ Nat.toDigits 10 n, isDigit c = true := fun _ => isDigit_of_mem_toDigits
  rw [spanDigits, List.takeWhile_append_of_pos hall, List.dropWhile_append_of_pos hall]
  cases rest with
  | nil => simp
  | cons c rest =>
      obtain ⟨hdigit, -⟩ := hrest
      simp [hdigit]

/-- They are a whole part, as no zero stands before others. -/
theorem wholePart?_toDigits (n : Nat) {rest : List Char} (hrest : EndsNumber rest) :
    wholePart? (Nat.toDigits 10 n ++ rest) = some (Nat.toDigits 10 n, rest) := by
  by_cases hzero : n = 0
  · subst hzero
    rfl
  · have hspan := spanDigits_toDigits n hrest
    obtain ⟨c, cs, hdigits, hdigit, hne⟩ := toDigits_eq_cons n
    rw [hdigits, List.cons_append] at hspan ⊢
    rw [wholePart?]
    · rw [if_pos hdigit, hspan]
    · exact hne hzero

/-- Where a number ends, no fraction follows. -/
theorem fraction?_of_endsNumber {rest : List Char} (hrest : EndsNumber rest) :
    fraction? rest = none := by
  cases rest with
  | nil => rfl
  | cons c rest =>
      obtain ⟨-, hpoint, -⟩ := hrest
      rw [fraction?]
      rintro more ⟨⟩
      exact hpoint rfl

/-- Nor does an exponent. -/
theorem exponent?_of_endsNumber {rest : List Char} (hrest : EndsNumber rest) :
    exponent? rest = none := by
  cases rest with
  | nil => rfl
  | cons c rest =>
      obtain ⟨-, -, hsmall, hcapital⟩ := hrest
      simp [exponent?, hsmall, hcapital]

/-- The digits of a number denote it. -/
theorem digitsValue_toDigits (n : Nat) : digitsValue (Nat.toDigits 10 n) = n :=
  Nat.ofDigitChars_ten_toDigits

/-- Digits end where the text behind them begins, so both can be told. -/
theorem toDigits_append_inj {m n : Nat} {xs ys : List Char} (hx : EndsNumber xs) (hy : EndsNumber ys)
    (h : Nat.toDigits 10 m ++ xs = Nat.toDigits 10 n ++ ys) : m = n ∧ xs = ys := by
  have hspan := congrArg spanDigits h
  rw [spanDigits_toDigits m hx, spanDigits_toDigits n hy, Prod.mk.injEq] at hspan
  refine ⟨?_, hspan.2⟩
  rw [← digitsValue_toDigits m, hspan.1, digitsValue_toDigits]

/-- No number starts with a character that is no digit. -/
theorem toDigits_append_ne_cons {n : Nat} {c : Char} (hc : isDigit c = false) (xs ys : List Char) :
    Nat.toDigits 10 n ++ xs ≠ c :: ys := by
  intro h
  obtain ⟨d, ds, hdigits, hdigit, -⟩ := toDigits_eq_cons n
  rw [hdigits] at h
  exact ne_of_isDigit hdigit hc (List.cons.inj h).1

/-- The same of whole numbers, which the minus tells apart by their sign. -/
theorem intText_append_inj {m n : Int} {xs ys : List Char} (hx : EndsNumber xs) (hy : EndsNumber ys)
    (h : intText m ++ xs = intText n ++ ys) : m = n ∧ xs = ys := by
  cases m with
  | ofNat m =>
      cases n with
      | ofNat n =>
          obtain ⟨rfl, hrest⟩ := toDigits_append_inj hx hy h
          exact ⟨rfl, hrest⟩
      | negSucc n => exact absurd h (toDigits_append_ne_cons rfl _ _)
  | negSucc m =>
      cases n with
      | ofNat n => exact absurd h.symm (toDigits_append_ne_cons rfl _ _)
      | negSucc n =>
          obtain ⟨hsucc, hrest⟩ := toDigits_append_inj hx hy (List.cons.inj h).2
          exact ⟨congrArg Int.negSucc (Nat.succ.inj hsucc), hrest⟩

/-- A result, or the fault that stands in its way. -/
def unlessFault {α : Type} (fault : Option ReadFault) (result : α) : Except ReadFault α :=
  match fault with
  | none => .ok result
  | some f => .error f

/-- What a reader finds wrong with the digits of a whole number: nothing but that they are many. -/
def digitsFault? (d : Dialect) (negative : Bool) (n : Nat) : Option ReadFault :=
  let digits := (Nat.toDigits 10 n).length
  if d.admitsDigits negative true digits then none else some (.longNumber digits)

/-- The digits of a number are read back unless they are too many. -/
theorem readNumber_toDigits (d : Dialect) (negative : Bool) (n : Nat) {rest : List Char}
    (hrest : EndsNumber rest) :
    readNumber d negative (Nat.toDigits 10 n ++ rest) =
      unlessFault (digitsFault? d negative n) (.int (Binary64.signed negative n), rest) := by
  simp only [readNumber, wholePart?_toDigits n hrest, fraction?_of_endsNumber hrest,
    Option.getD_none, exponent?_of_endsNumber hrest, digitsValue_toDigits, digitsFault?]
  split <;> rfl

/-- No word starts with a digit, nor with a minus and a digit. -/
theorem word?_of_isDigit {c : Char} (h : isDigit c = true) (cs : List Char) :
    word? (c :: cs) = none ∧ word? ('-' :: c :: cs) = none := by
  have hne : ∀ w, isDigit w = false → w ≠ c := fun w hw => (ne_of_isDigit h hw).symm
  constructor <;>
    simp [word?, words, List.isPrefixOf, hne 'n' rfl, hne 't' rfl, hne 'f' rfl, hne 'N' rfl,
      hne 'I' rfl, hne '-' rfl]

/-- What starts with a digit is read as a number. -/
theorem readAtom_of_isDigit (d : Dialect) {c : Char} (h : isDigit c = true) (cs : List Char) :
    readAtom d (c :: cs) = readNumber d false (c :: cs) := by
  have hword := (word?_of_isDigit h cs).1
  unfold readAtom
  split
  · rename_i found
    rw [hword] at found
    cases found
  · rename_i hminus
    cases hminus
    cases h
  · rfl

/-- Behind a minus it is read as a negative one. -/
theorem readAtom_minus_of_isDigit (d : Dialect) {c : Char} (h : isDigit c = true) (cs : List Char) :
    readAtom d ('-' :: c :: cs) = readNumber d true (c :: cs) := by
  simp only [readAtom, (word?_of_isDigit h cs).2]

/-- What a reader finds wrong with a whole number. -/
def intFault? (d : Dialect) (n : Int) : Option ReadFault := digitsFault? d (n < 0) n.natAbs

/-- A whole number is read back unless it has too many digits. -/
theorem readAtom_intText (d : Dialect) (n : Int) {rest : List Char} (hrest : EndsNumber rest) :
    readAtom d (intText n ++ rest) = unlessFault (intFault? d n) (.int n, rest) := by
  cases n with
  | ofNat n =>
      obtain ⟨c, cs, hdigits, hdigit, -⟩ := toDigits_eq_cons n
      have hread := readNumber_toDigits d false n hrest
      have hsign : decide (Int.ofNat n < 0) = false := by simp
      rw [intFault?, hsign, intText]
      rw [hdigits] at hread ⊢
      rw [List.cons_append, readAtom_of_isDigit d hdigit]
      exact hread
  | negSucc n =>
      obtain ⟨c, cs, hdigits, hdigit, -⟩ := toDigits_eq_cons (n + 1)
      have hread := readNumber_toDigits d true (n + 1) hrest
      have hsign : decide (Int.negSucc n < 0) = true := by simp
      rw [intFault?, hsign, intText]
      rw [hdigits] at hread ⊢
      rw [List.cons_append, List.cons_append, readAtom_minus_of_isDigit d hdigit]
      exact hread

/-- A string read on from a character. -/
def consChar (c : Char) (tail : Except ReadFault (List CodePoint × List Char)) :
    Except ReadFault (List CodePoint × List Char) := do
  let (points, rest) ← tail
  return (.char c :: points, rest)

/-- The four digits of a control character denote its code. -/
theorem hexFour?_hexPadded {n : Nat} (h : n < 0x20) :
    (hexPadded 4 n).length = 4 ∧ hexFour? (hexPadded 4 n) = some n := by
  revert n
  decide

/-- So they are read as that code unit. -/
theorem codeUnit_hexPadded {n : Nat} (h : n < 0x20) (next : Char) (rest : List Char) :
    codeUnit (hexPadded 4 n ++ next :: rest) = .ok (n, next :: rest) := by
  obtain ⟨hlength, hvalue⟩ := hexFour?_hexPadded h
  rw [codeUnit, List.take_left' hlength, List.drop_left' hlength, hvalue]

/-- The escape of a control character is read back. -/
theorem stringTail_unitEscape (d : Dialect) (fuel : Nat) {c : Char} (h : c.toNat < 0x20)
    (next : Char) (rest : List Char) :
    stringTail d (fuel + 1) (unitEscape c.toNat ++ next :: rest) =
      consChar c (stringTail d fuel (next :: rest)) := by
  have hsurrogate : Surrogate.ofCode? c.toNat = none := dif_neg (by omega)
  have hhigh : isHighSurrogate c.toNat = false := by
    simp only [isHighSurrogate, Bool.and_eq_false_iff, decide_eq_false_iff_not]
    omega
  have hpoint : unicodeEscape d (hexPadded 4 c.toNat ++ next :: rest) =
      .ok (.char c, next :: rest) := by
    simp only [unicodeEscape, codeUnit_hexPadded h, bind, Except.bind, hsurrogate, hhigh,
      Bool.false_eq_true, if_false, Char.ofNat_toNat]
  rw [unitEscape, List.cons_append, List.cons_append, stringTail.eq_def d (fuel + 1)]
  simp only [Char.reduceEq, if_false, if_true, hpoint, bind, Except.bind]
  rfl

/-- A character that needs no escape is read as it stands. -/
theorem stringTail_of_plain (d : Dialect) (fuel : Nat) {c : Char} (hquote : c ≠ '"')
    (hslash : c ≠ '\\') (hcontrol : ¬ c.toNat < 0x20) (rest : List Char) :
    stringTail d (fuel + 1) (c :: rest) = consChar c (stringTail d fuel rest) := by
  rw [stringTail.eq_def d (fuel + 1)]
  simp only [if_neg hquote, if_neg hslash, if_neg hcontrol]
  rfl

/-- Each character of a string is read back, escaped or not. -/
theorem stringTail_stringChar (d : Dialect) (fuel : Nat) (c next : Char) (rest : List Char) :
    stringTail d (fuel + 1) (stringChar .unicode c ++ next :: rest) =
      consChar c (stringTail d fuel (next :: rest)) := by
  unfold stringChar
  -- the seven escapes of one letter, the numeric one, and the characters that stand for themselves
  split
  next h => subst h; rfl
  split
  next h => subst h; rfl
  split
  next h => subst h; rfl
  split
  next h => subst h; rfl
  split
  next h => subst h; rfl
  split
  next h => subst h; rfl
  split
  next h => subst h; rfl
  split
  next h => exact stringTail_unitEscape d fuel h next rest
  next hquote hslash _ _ _ _ _ hcontrol =>
    split <;> exact stringTail_of_plain d fuel hquote hslash hcontrol (next :: rest)

/-- The characters of a string are read back up to the quote behind them. -/
theorem stringTail_flatMap (d : Dialect) (cs : List Char) {fuel : Nat} (rest : List Char)
    (hfuel : cs.length < fuel) :
    stringTail d fuel (cs.flatMap (stringChar .unicode) ++ '"' :: rest) =
      .ok (cs.map .char, rest) := by
  induction cs generalizing fuel with
  | nil =>
      obtain ⟨fuel, rfl⟩ := Nat.exists_eq_succ_of_ne_zero (Nat.ne_of_gt hfuel)
      rfl
  | cons c cs ih =>
      obtain ⟨fuel, rfl⟩ := Nat.exists_eq_succ_of_ne_zero (Nat.ne_of_gt (Nat.zero_lt_of_lt hfuel))
      obtain ⟨next, more, hnext⟩ : ∃ next more,
          cs.flatMap (stringChar .unicode) ++ '"' :: rest = next :: more := by
        apply List.exists_cons_of_ne_nil
        simp
      rw [List.flatMap_cons, List.append_assoc, hnext, stringTail_stringChar, ← hnext,
        ih (Nat.lt_of_succ_lt_succ hfuel)]
      rfl

/-- Characters as code points are the text with these characters. -/
theorem ofCodePoints_chars (cs : List Char) :
    Text.ofCodePoints (cs.map .char) = Text.ofString (String.ofList cs) := by
  induction cs with
  | nil => rfl
  | cons c cs ih =>
      rw [List.map_cons, Text.ofCodePoints_char, ih]
      simp only [Text.ofString, String.toList_ofList]

/-- No character is written as nothing. -/
theorem stringChar_ne_nil (c : Char) : stringChar .unicode c ≠ [] := by
  unfold stringChar
  dsimp only
  repeat' split
  all_goals exact List.cons_ne_nil _ _

/-- So a text is written with no fewer characters than it has. -/
theorem length_le_flatMap_stringChar (cs : List Char) :
    cs.length ≤ (cs.flatMap (stringChar .unicode)).length := by
  induction cs with
  | nil => exact Nat.le_refl 0
  | cons c cs ih =>
      have hpos := List.length_pos_iff.mpr (stringChar_ne_nil c)
      rw [List.flatMap_cons, List.length_append, List.length_cons]
      omega

/-- A string is read back. -/
theorem readString_writeString (d : Dialect) (s : String) {fuel : Nat} (rest : List Char)
    (hfuel : (s.toList.flatMap (stringChar .unicode)).length < fuel) :
    readString d fuel (s.toList.flatMap (stringChar .unicode) ++ '"' :: rest) =
      .ok (.ofString s, rest) := by
  have hlength := length_le_flatMap_stringChar s.toList
  rw [readString, stringTail_flatMap d s.toList rest (by omega)]
  simp [ofCodePoints_chars]

/-- A string stands between quotes, written character by character. -/
theorem writeString_ofString (charset : Charset) (s : String) :
    writeString charset (.ofString s) = '"' :: s.toList.flatMap (stringChar charset) ++ ['"'] := by
  simp [writeString, Text.codePoints, Text.ofString, Text.charPoints, List.flatMap_map,
    stringPoint]

end Json

end TagSearch
