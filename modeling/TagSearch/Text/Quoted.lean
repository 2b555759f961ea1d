import TagSearch.Text.Basic
import TagSearch.Text.Printable

/-!
# Quoted texts

A text shown inside a message stands in single quotes, or in double quotes when it contains a single
quote and no double one.  The quote in use and the backslash are escaped, and so is every character
that is not printable and every surrogate.
-/

namespace TagSearch

/-- A number in lower-case hexadecimal, filled up with zeros. -/
def hexPadded (width n : Nat) : List Char :=
  let digits := Nat.toDigits 16 n
  List.replicate (width - digits.length) '0' ++ digits

/-- A character inside quotes. -/
def quotedChar (quote c : Char) : List Char :=
  if c = quote || c = '\\' then ['\\', c]
  else if c = '\n' then ['\\', 'n']
  else if c = '\r' then ['\\', 'r']
  else if c = '\t' then ['\\', 't']
  else if isPrintable c then [c]
  else if c.toNat < 0x100 then '\\' :: 'x' :: hexPadded 2 c.toNat
  else if c.toNat < 0x10000 then '\\' :: 'u' :: hexPadded 4 c.toNat
  else '\\' :: 'U' :: hexPadded 8 c.toNat

/-- The quote character a text is put in. -/
def quoteFor (cs : List Char) : Char :=
  if cs.contains '\'' && !cs.contains '"' then '"' else '\''

/-- A code point inside quotes. -/
def quotedPoint (quote : Char) : CodePoint → List Char
  | .char c => quotedChar quote c
  | .lone s => '\\' :: 'u' :: hexPadded 4 s.code

/-- A text in quotes. -/
def quoted (t : Text) : String :=
  let quote := quoteFor t.chars
  String.ofList (quote :: t.codePoints.flatMap (quotedPoint quote) ++ [quote])

/-- A text as it stands, or in quotes if it is no string. -/
def Text.shown (t : Text) : String := t.toString?.getD (quoted t)

end TagSearch
