/-!
# Lines of a text

A file is read with all three line ends, LF, CR and CR LF, taken as LF; places in a text are told by
line and column, both counted from one.
-/

namespace TagSearch

/-- The text with every line end written as LF. -/
def unifyLineEnds : List Char → List Char
  | '\r' :: '\n' :: rest => '\n' :: unifyLineEnds rest
  | '\r' :: rest => '\n' :: unifyLineEnds rest
  | c :: rest => c :: unifyLineEnds rest
  | [] => []

/-- A place in a text. -/
structure Place where
  line : Nat
  column : Nat
  offset : Nat
  deriving DecidableEq, Repr

/-- The place at an offset into a text. -/
def Place.at (text : List Char) (offset : Nat) : Place :=
  let before := text.take offset
  { line := before.count '\n' + 1
    column := (before.reverse.takeWhile (· != '\n')).length + 1
    offset }

/-- A place as messages name it. -/
def Place.toText (p : Place) : String :=
  s!"line {p.line} column {p.column} (char {p.offset})"

end TagSearch
