import TagSearch.Json.Reader
import TagSearch.Schema.Issue
import TagSearch.Text.Blank

/-!
# Numbers written as texts

Where a number is wanted, a text may stand for it.  A whole number may have blanks around it, a sign,
leading zeros, single underscores inside, and a fraction of zeros; a floating-point number may have
blanks around it or single underscores inside, and a word may stand for infinity and NaN.

`integerOfText` first reads the text as a number of strict JSON, which limits its length; where that
fails it takes the liberties away one after the other and reads what is left.
-/

namespace TagSearch

namespace Notation

/-- A text without its sign, and whether the sign is a minus. -/
def splitSign : List Char → Bool × List Char
  | '-' :: rest => (true, rest)
  | '+' :: rest => (false, rest)
  | cs => (false, cs)

/-- The text without underscores, each of which has to stand alone inside the text. -/
def dropUnderscores? (cs : List Char) : Option (List Char) :=
  let rec single : List Char → Bool
    | '_' :: '_' :: _ => false
    | ['_'] => false
    | _ :: rest => single rest
    | [] => true
  if cs.head? != some '_' && single cs then some (cs.filter (· != '_')) else none

/-- The text behind a zero or an underscore and all that follow it.  The last of them stays when
nothing is left or a point comes next. -/
def afterZeros? (last : Char) : List Char → Option (List Char)
  | [] => some [last]
  | c :: rest =>
    if c = '0' || c = '_' then afterZeros? c rest
    else if c = '.' then some (last :: c :: rest)
    else if Json.isDigit c || c = '-' then some (c :: rest)
    else none

/-- The text without its leading zeros and the underscores among them.  It has to start with a digit,
or with the minus of a number that is to follow. -/
def dropZeros? : List Char → Option (List Char)
  | [] => none
  | c :: rest =>
    if c = '0' then afterZeros? c rest
    else if Json.isDigit c || c = '-' then some (c :: rest)
    else none

/-- The text without a fraction of zeros. -/
def dropZeroFraction (cs : List Char) : List Char :=
  match cs.dropWhile (· != '.') with
  | _ :: zeros => if !zeros.isEmpty && zeros.all (· == '0') then cs.takeWhile (· != '.') else cs
  | [] => cs

/-- The text of a whole number without what is merely allowed: blanks around it, a plus, leading
zeros, a fraction of zeros, and underscores. -/
def plainInteger? (cs : List Char) : Option (List Char) := do
  let unsigned ←
    match trim isBlank cs with
    | '+' :: '-' :: _ => none
    | '+' :: rest => dropZeros? rest
    | '-' :: rest => (dropZeros? rest).map ('-' :: ·)
    | rest => dropZeros? rest
  let whole := dropZeroFraction unsigned
  return (dropUnderscores? whole).getD whole

/-- A whole number written as in strict JSON, which limits its length. -/
def jsonInteger (cs : List Char) : Except Cause Int :=
  let (negative, unsigned) :=
    match cs with
    | '-' :: rest => (true, rest)
    | _ => (false, cs)
  match Json.wholePart? unsigned with
  | none => .error .unreadableInteger
  | some (digits, rest) =>
    if !Json.Dialect.strict.admitsDigits negative true digits.length then .error .oversized
    else if rest.isEmpty then .ok (Binary64.signed negative (Json.digitsValue digits))
    else .error .unreadableInteger

/-- The whole number that a text denotes.  Only a text that starts as a strict number can be called
too long; one whose plain form is too long is just not a number. -/
def integerOfText (s : String) : Except Cause Int :=
  match jsonInteger s.toList with
  | .error .unreadableInteger =>
    match (plainInteger? s.toList).map jsonInteger with
    | some (.ok n) => .ok n
    | _ => .error .unreadableInteger
  | answer => answer

/-- A decimal number: digits with or without a point, at least one of them, and an exponent part. -/
def decimalOfText? (negative : Bool) (cs : List Char) : Option Binary64 :=
  let (whole, rest) := Json.spanDigits cs
  let (decimals, rest) :=
    match rest with
    | '.' :: more => Json.spanDigits more
    | _ => ([], rest)
  if whole.isEmpty && decimals.isEmpty then none
  else
    let number (e : Int) : Binary64 :=
      .ofDecimal negative (Json.digitsValue (whole ++ decimals)) (e - decimals.length)
    match rest, Json.exponent? rest with
    | [], _ => some (number 0)
    | _, some (e, []) => some (number e)
    | _, _ => none

/-- A number without liberties: a sign, and digits or one of the words for infinity and NaN. -/
def plainNumber? (cs : List Char) : Option Binary64 :=
  let (negative, unsigned) := splitSign cs
  let word := unsigned.map Char.toLower
  if word = "inf".toList || word = "infinity".toList then some (.infinite negative)
  else if word = "nan".toList then some .nan
  else decimalOfText? negative unsigned

/-- The number that a text denotes.  Blanks around it and underscores inside do not go together. -/
def numberOfText? (s : String) : Option Binary64 :=
  (plainNumber? (trim isBlank s.toList)).or ((dropUnderscores? s.toList).bind plainNumber?)

end Notation

end TagSearch
