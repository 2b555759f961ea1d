import TagSearch.Json.Basic
import TagSearch.Number.IntText
import TagSearch.Text.Lines

/-!
# Reading JSON

`Json.read` turns a text into the value it denotes, or tells the first place where it denotes none.
Blanks are the space, tab, line feed and carriage return; the last of several members of one name
counts, at the position of the first; `NaN` and the infinities are read as numbers.

A `Dialect` sets the limits: how deep values are nested, how long numbers are, and whether half of a
surrogate pair may stand alone.  What is beyond a limit is refused where it is met, even before what
is wrong with the text behind it.

Inside the reader a place is told by the number of characters left, so that no function has to know
how much came before it.
-/

namespace TagSearch

namespace Json

/-- What a reader may find wrong. -/
inductive SyntaxCause
  | byteOrderMark
  | expectedValue
  | expectedName
  | expectedColon
  | expectedComma
  | unterminatedString
  | controlCharacter
  | badEscape
  | badUnicodeEscape
  | extraData
  deriving DecidableEq, Repr

/-- Why a text is not read. -/
inductive ReadFault
  /-- It is not JSON; so many characters were left where that was found. -/
  | malformed (cause : SyntaxCause) (left : Nat)
  /-- Too many lists and objects stand inside each other. -/
  | tooDeep
  /-- A number has a whole part of so many digits. -/
  | longNumber (digits : Nat)
  deriving DecidableEq, Repr

/-- Which texts are read. -/
inductive Dialect
  /-- The JSON of files and arguments. -/
  | loose
  /-- The JSON of a record that somebody wrote as one. -/
  | strict
  deriving DecidableEq, Repr

namespace Dialect

/-- Whether half of a surrogate pair may stand alone. -/
def admitsLone : Dialect → Bool
  | .loose => true
  | .strict => false

/-- Whether a list or an object inside so many others is one too many.  A strict one with nothing in
it never is. -/
def tooDeep (d : Dialect) (level : Nat) (isEmpty : Bool) : Bool :=
  match d with
  | .loose => 989 ≤ level
  | .strict => !isEmpty && 200 ≤ level

/-- Whether a number may have a whole part of so many digits.  Any number of them will do for a loose
number with a fraction or an exponent; for a strict one a minus counts like a digit. -/
def admitsDigits (d : Dialect) (negative isWhole : Bool) (digits : Nat) : Bool :=
  match d with
  | .loose => !isWhole || digits ≤ maxDigits
  | .strict => digits + negative.toNat ≤ maxDigits

end Dialect

/-- The blanks of JSON. -/
def isBlank (c : Char) : Bool := c == ' ' || c == '\t' || c == '\n' || c == '\r'

/-- The text after its leading blanks. -/
def skipBlanks (cs : List Char) : List Char := cs.dropWhile isBlank

/-- The value of a hexadecimal digit. -/
def hexDigit? (c : Char) : Option Nat :=
  if '0' ≤ c && c ≤ '9' then some (c.toNat - '0'.toNat)
  else if 'a' ≤ c && c ≤ 'f' then some (c.toNat - 'a'.toNat + 10)
  else if 'A' ≤ c && c ≤ 'F' then some (c.toNat - 'A'.toNat + 10)
  else none

/-- Four hexadecimal digits. -/
def hexFour? : List Char → Option Nat
  | [a, b, c, d] => do
    return (((← hexDigit? a) * 16 + (← hexDigit? b)) * 16 + (← hexDigit? c)) * 16 + (← hexDigit? d)
  | _ => none

/-- The four digits of an escape, whose letter a fault points at.  They need a character after them:
a text that stops inside or right behind an escape cannot be a string. -/
def codeUnit (cs : List Char) : Except ReadFault (Nat × List Char) :=
  match hexFour? (cs.take 4), cs.drop 4 with
  | some n, next :: rest => .ok (n, next :: rest)
  | _, _ => .error (.malformed .badUnicodeEscape (cs.length + 1))

/-- The character of an escape with one letter. -/
def simpleEscape? : Char → Option Char
  | '"' => some '"'
  | '\\' => some '\\'
  | '/' => some '/'
  | 'b' => some '\x08'
  | 'f' => some '\x0c'
  | 'n' => some '\n'
  | 'r' => some '\r'
  | 't' => some '\t'
  | _ => none

/-- The first half of a surrogate pair. -/
def isHighSurrogate (n : Nat) : Bool := 0xd800 ≤ n && n ≤ 0xdbff

/-- The second half of a surrogate pair. -/
def isLowSurrogate (n : Nat) : Bool := 0xdc00 ≤ n && n ≤ 0xdfff

/-- The character that a pair of surrogates encodes. -/
def joinSurrogates (high low : Nat) : Char :=
  Char.ofNat (0x10000 + (high - 0xd800) * 0x400 + (low - 0xdc00))

/-- The code point of a numeric escape, from the text behind the letter that starts it.  A second
escape belongs to it when the two are the halves of a surrogate pair. -/
def unicodeEscape (d : Dialect) (cs : List Char) : Except ReadFault (CodePoint × List Char) := do
  let (n, rest) ← codeUnit cs
  let single : Except ReadFault (CodePoint × List Char) :=
    match Surrogate.ofCode? n with
    | none => .ok (.char (Char.ofNat n), rest)
    | some s =>
      if d.admitsLone then .ok (.lone s, rest)
      else .error (.malformed .badUnicodeEscape (cs.length + 1))
  if isHighSurrogate n then
    match rest with
    | '\\' :: 'u' :: more =>
      let (low, after) ← codeUnit more
      if isLowSurrogate low then .ok (.char (joinSurrogates n low), after) else single
    | _ => single
  else single

/-- The rest of a string behind its opening quote, of at most `fuel` code points. -/
def stringTail (d : Dialect) : (fuel : Nat) → List Char →
    Except ReadFault (List CodePoint × List Char)
  | 0, cs => .error (.malformed .unterminatedString cs.length)
  | _ + 1, [] => .error (.malformed .unterminatedString 0)
  | fuel + 1, c :: rest =>
    if c = '"' then .ok ([], rest)
    else if c = '\\' then
      match rest with
      | [] => .error (.malformed .unterminatedString 0)
      | 'u' :: digits => do
        let (point, rest) ← unicodeEscape d digits
        let (points, rest) ← stringTail d fuel rest
        return (point :: points, rest)
      | letter :: more =>
        match simpleEscape? letter with
        | none => .error (.malformed .badEscape ((c :: rest).length))
        | some c => do
          let (points, rest) ← stringTail d fuel more
          return (.char c :: points, rest)
    else if c.toNat < 0x20 then .error (.malformed .controlCharacter ((c :: rest).length))
    else do
      let (points, rest) ← stringTail d fuel rest
      return (.char c :: points, rest)

/-- A string behind its opening quote.  One without an end is reported where it starts. -/
def readString (d : Dialect) (fuel : Nat) (cs : List Char) : Except ReadFault (Text × List Char) :=
  match stringTail d fuel cs with
  | .ok (points, rest) => .ok (.ofCodePoints points, rest)
  | .error (.malformed .unterminatedString _) => .error (.malformed .unterminatedString (cs.length + 1))
  | .error fault => .error fault

/-- The decimal digits of ASCII. -/
def isDigit (c : Char) : Bool := '0' ≤ c && c ≤ '9'

/-- The number that decimal digits denote. -/
def digitsValue (ds : List Char) : Nat :=
  ds.foldl (fun n c => 10 * n + (c.toNat - '0'.toNat)) 0

/-- The digits that a text starts with, and the text behind them. -/
def spanDigits (cs : List Char) : List Char × List Char := (cs.takeWhile isDigit, cs.dropWhile isDigit)

/-- A fraction: a point and at least one digit. -/
def fraction? (cs : List Char) : Option (List Char × List Char) :=
  match cs with
  | '.' :: rest =>
    let (ds, more) := spanDigits rest
    if ds.isEmpty then none else some (ds, more)
  | _ => none

/-- An exponent part: the letter, an optional sign and at least one digit. -/
def exponent? (cs : List Char) : Option (Int × List Char) :=
  match cs with
  | e :: rest =>
    if e = 'e' || e = 'E' then
      let (negative, unsigned) :=
        match rest with
        | '-' :: more => (true, more)
        | '+' :: more => (false, more)
        | _ => (false, rest)
      let (ds, more) := spanDigits unsigned
      if ds.isEmpty then none else some (Binary64.signed negative (digitsValue ds), more)
    else none
  | [] => none

/-- The whole part of a number: a zero alone, or digits that start with another one. -/
def wholePart? (cs : List Char) : Option (List Char × List Char) :=
  match cs with
  | '0' :: rest => some (['0'], rest)
  | c :: _ => if isDigit c then some (spanDigits cs) else none
  | [] => none

/-- A number behind its sign: whole unless a fraction or an exponent part follows. -/
def readNumber (d : Dialect) (negative : Bool) (cs : List Char) :
    Except ReadFault (Json × List Char) :=
  match wholePart? cs with
  | none => .error (.malformed .expectedValue (cs.length + negative.toNat))
  | some (whole, rest) =>
    let (decimals, rest) := (fraction? rest).getD ([], rest)
    match decimals, exponent? rest with
    | [], none =>
      if d.admitsDigits negative true whole.length then
        .ok (.int (Binary64.signed negative (digitsValue whole)), rest)
      else .error (.longNumber whole.length)
    | _, power =>
      let (e, rest) := power.getD (0, rest)
      let value := Binary64.ofDecimal negative (digitsValue (whole ++ decimals)) (e - decimals.length)
      if d.admitsDigits negative false whole.length then .ok (.float value, rest)
      else .error (.longNumber whole.length)

/-- The words that stand for values. -/
def words : List (List Char × Json) :=
  [("null".toList, .null), ("true".toList, .bool true), ("false".toList, .bool false),
   ("NaN".toList, .float .nan), ("Infinity".toList, .float (.infinite false)),
   ("-Infinity".toList, .float (.infinite true))]

/-- The word that a text starts with. -/
def word? (cs : List Char) : Option (Json × List Char) :=
  (words.find? fun w => w.1.isPrefixOf cs).map fun w => (w.2, cs.drop w.1.length)

/-- A word or a number. -/
def readAtom (d : Dialect) (cs : List Char) : Except ReadFault (Json × List Char) :=
  match word? cs, cs with
  | some r, _ => .ok r
  | none, '-' :: rest => readNumber d true rest
  | none, _ => readNumber d false cs

mutual

/-- A value inside so many lists and objects, without blanks before it. -/
def readValue (d : Dialect) (level : Nat) : (fuel : Nat) → List Char → Except ReadFault (Json × List Char)
  | 0, cs => .error (.malformed .expectedValue cs.length)
  | fuel + 1, cs =>
    match cs with
    | '"' :: rest => do
      let (s, rest) ← readString d fuel rest
      return (.str s, rest)
    | '[' :: rest =>
      match skipBlanks rest with
      | ']' :: more => if d.tooDeep level true then .error .tooDeep else .ok (.arr [], more)
      | more =>
        if d.tooDeep level false then .error .tooDeep
        else do
          let (items, rest) ← readItems d (level + 1) fuel more
          return (.arr items, rest)
    | '{' :: rest =>
      match skipBlanks rest with
      | '}' :: more => if d.tooDeep level true then .error .tooDeep else .ok (.obj [], more)
      | more =>
        if d.tooDeep level false then .error .tooDeep
        else do
          let (members, rest) ← readMembers d (level + 1) fuel [] more
          return (.obj members, rest)
    | _ => readAtom d cs

/-- One item or more, up to the closing bracket. -/
def readItems (d : Dialect) (level : Nat) :
    (fuel : Nat) → List Char → Except ReadFault (List Json × List Char)
  | 0, cs => .error (.malformed .expectedValue cs.length)
  | fuel + 1, cs => do
    let (item, rest) ← readValue d level fuel cs
    match skipBlanks rest with
    | ',' :: more =>
      let (items, rest) ← readItems d level fuel (skipBlanks more)
      return (item :: items, rest)
    | ']' :: more => return ([item], more)
    | more => .error (.malformed .expectedComma more.length)

/-- One member or more, up to the closing brace, added to those read before. -/
def readMembers (d : Dialect) (level : Nat) :
    (fuel : Nat) → Members → List Char → Except ReadFault (Members × List Char)
  | 0, _, cs => .error (.malformed .expectedName cs.length)
  | fuel + 1, before, cs =>
    match cs with
    | '"' :: rest => do
      let (name, rest) ← readString d fuel rest
      match skipBlanks rest with
      | ':' :: more =>
        let (value, rest) ← readValue d level fuel (skipBlanks more)
        let members := setMember name value before
        match skipBlanks rest with
        | ',' :: more => readMembers d level fuel members (skipBlanks more)
        | '}' :: more => return (members, more)
        | more => .error (.malformed .expectedComma more.length)
      | more => .error (.malformed .expectedColon more.length)
    | _ => .error (.malformed .expectedName cs.length)

end

/-- Fuel for a text: an opening bracket takes two units, one for the list and one for its first item, and
every other part takes no more than it has characters. -/
def fuelFor (text : List Char) : Nat := 2 * text.length + 2

/-- A whole text: one value, with blanks around it. -/
def readText (d : Dialect) (text : List Char) : Except ReadFault Json :=
  match text with
  | '\ufeff' :: _ => .error (.malformed .byteOrderMark text.length)
  | _ => do
    let (value, rest) ← readValue d 0 (fuelFor text) (skipBlanks text)
    match skipBlanks rest with
    | [] => return value
    | more => .error (.malformed .extraData more.length)

/-- A cause in words. -/
def SyntaxCause.text : SyntaxCause → String
  | .byteOrderMark => "Unexpected UTF-8 BOM (decode using utf-8-sig)"
  | .expectedValue => "Expecting value"
  | .expectedName => "Expecting property name enclosed in double quotes"
  | .expectedColon => "Expecting ':' delimiter"
  | .expectedComma => "Expecting ',' delimiter"
  | .unterminatedString => "Unterminated string starting at"
  | .controlCharacter => "Invalid control character at"
  | .badEscape => "Invalid \\escape"
  | .badUnicodeEscape => "Invalid \\uXXXX escape"
  | .extraData => "Extra data"

/-- Why a text is not JSON, and where. -/
structure SyntaxError where
  cause : SyntaxCause
  place : Place
  deriving DecidableEq, Repr

/-- The message for a text that is not JSON. -/
def SyntaxError.message (e : SyntaxError) : String := e.cause.text ++ ": " ++ e.place.toText

/-- Why a text is not read, with the place where it is not JSON. -/
inductive ReadError
  | malformed (e : SyntaxError)
  | tooDeep
  | longNumber (digits : Nat)
  deriving DecidableEq, Repr

/-- An error in words. -/
def ReadError.message : ReadError → String
  | .malformed e => e.message
  | .tooDeep => "maximum nesting depth exceeded"
  | .longNumber digits =>
    s!"Exceeds the limit ({maxDigits} digits) for integer string conversion: value has "
      ++ s!"{digits} digits; use sys.set_int_max_str_digits() to increase the limit"

/-- A fault in a text, with its place told by line and column. -/
def ReadFault.within (text : List Char) : ReadFault → ReadError
  | .malformed cause left => .malformed ⟨cause, Place.at text (text.length - left)⟩
  | .tooDeep => .tooDeep
  | .longNumber digits => .longNumber digits

/-- The value that characters denote. -/
def readChars (text : List Char) : Except ReadError Json :=
  (readText .loose text).mapError (·.within text)

/-- The value that a text denotes. -/
def read (text : String) : Except ReadError Json := readChars text.toList

end Json

end TagSearch
