import TagSearch.Text.Basic
import TagSearch.Text.LowercaseTable

/-!
# Lowercasing

Full lowercasing of a text: every character goes to its own lower form, with two exceptions.  The
capital I with a dot above becomes an i followed by a combining dot, and a capital sigma becomes the
final sigma where it ends a word.  A surrogate stays as it is; it is no letter, and a word does not go on
behind it.
-/

namespace TagSearch

/-- The lower form of a character that lowers to a single one. -/
def lowerChar (c : Char) : Char :=
  match lowercaseRuns.find? (·.has c.toNat) with
  | some run => Char.ofNat (c.toNat + run.offset).toNat
  | none => c

namespace CodePoint

/-- Whether a code point does not matter between letters. -/
def isIgnorable : CodePoint → Bool
  | .char c => caseIgnorable.has c
  | .lone _ => false

/-- Whether a code point is a letter with case. -/
def isCased : CodePoint → Bool
  | .char c => cased.has c
  | .lone _ => false

/-- The lower form of a code point regardless of its neighbours. -/
def lowerAlone : CodePoint → List CodePoint
  | .char c => if c = '\u0130' then [.char 'i', .char '\u0307'] else [.char (lowerChar c)]
  | .lone s => [.lone s]

end CodePoint

/-- Whether the first code point that matters is a letter with case. -/
def meetsCased (points : List CodePoint) : Bool :=
  match points.dropWhile CodePoint.isIgnorable with
  | p :: _ => p.isCased
  | [] => false

/-- Whether a sigma between two texts, the first one reversed, ends a word: letters before it and
none after. -/
def endsWord (before after : List CodePoint) : Bool := meetsCased before && !meetsCased after

/-- Lowercases a text that follows another one, given reversed. -/
def lowerAfter (before : List CodePoint) : List CodePoint → List CodePoint
  | [] => []
  | p :: rest =>
    (if p = .char 'Σ' then [.char (if endsWord before rest then 'ς' else 'σ')] else p.lowerAlone)
      ++ lowerAfter (p :: before) rest

/-- The lower form of a text. -/
def Text.lower (t : Text) : Text := ofCodePoints (lowerAfter [] t.codePoints)

end TagSearch
