import TagSearch.Json.Basic
import TagSearch.Number.IntText
import TagSearch.Number.Shortest
import TagSearch.Text.Quoted

/-!
# Writing JSON

`Json.compact` and `Json.spaced` write a value on one line, without and with blanks between its
parts; `Json.indented` writes one item a line with two blanks for every level.  An empty list or
object is a pair of brackets.  Characters outside a layout's set are
escaped by their UTF-16 units; surrogates always are.  `Json.encodingFault?` tells whether a value
holds any.
-/

namespace TagSearch

namespace Json

/-- Which of the characters from U+007F on a string writes as they are. -/
inductive Charset
  /-- All of them. -/
  | unicode
  /-- None. -/
  | ascii
  deriving DecidableEq, Repr

/-- A numeric escape. -/
def unitEscape (n : Nat) : List Char := '\\' :: 'u' :: hexPadded 4 n

/-- A character by its one or two UTF-16 units. -/
def unitsEscape (c : Char) : List Char :=
  let n := c.toNat
  if n < 0x10000 then unitEscape n
  else
    unitEscape (0xd800 + (n - 0x10000) / 0x400) ++ unitEscape (0xdc00 + (n - 0x10000) % 0x400)

/-- A character inside a string. -/
def stringChar (charset : Charset) (c : Char) : List Char :=
  if c = '"' then ['\\', '"']
  else if c = '\\' then ['\\', '\\']
  else if c = '\x08' then ['\\', 'b']
  else if c = '\x0c' then ['\\', 'f']
  else if c = '\n' then ['\\', 'n']
  else if c = '\r' then ['\\', 'r']
  else if c = '\t' then ['\\', 't']
  else if c.toNat < 0x20 then unitEscape c.toNat
  else if c.toNat < 0x7f then [c]
  else
    match charset with
    | .unicode => [c]
    | .ascii => unitsEscape c

/-- A code point inside a string. -/
def stringPoint (charset : Charset) : CodePoint → List Char
  | .char c => stringChar charset c
  | .lone s => unitEscape s.code

/-- A string. -/
def writeString (charset : Charset) (t : Text) : List Char :=
  '"' :: t.codePoints.flatMap (stringPoint charset) ++ ['"']

/-- A floating-point number; infinities and NaN are written as words. -/
def writeFloat : Binary64 → List Char
  | .nan => "NaN".toList
  | .infinite false => "Infinity".toList
  | .infinite true => "-Infinity".toList
  | x => x.toText.toList

/-- A value without parts, or an empty one. -/
def writeLeaf (charset : Charset) : Json → List Char
  | .null => "null".toList
  | .bool b => (if b then "true" else "false").toList
  | .int n => intText n
  | .float x => writeFloat x
  | .str t => writeString charset t
  | .arr _ => "[]".toList
  | .obj _ => "{}".toList

/-- How the parts of a value are set apart. -/
structure Layout where
  charset : Charset
  /-- What stands before an item, given its level. -/
  beforeItem : Nat → List Char
  /-- What stands between the comma and the next item, given its level. -/
  afterComma : Nat → List Char
  /-- What stands after the last item, given the level around it. -/
  afterLast : Nat → List Char
  /-- What stands after the colon of a member. -/
  afterColon : List Char

mutual

/-- A value at a level of nesting. -/
def write (l : Layout) (level : Nat) : Json → List Char
  | .arr (item :: rest) =>
    '[' :: l.beforeItem (level + 1) ++ write l (level + 1) item ++ writeItems l (level + 1) rest
      ++ l.afterLast level ++ [']']
  | .obj ((name, value) :: rest) =>
    '{' :: l.beforeItem (level + 1) ++ writeString l.charset name ++ ':' :: l.afterColon
      ++ write l (level + 1) value ++ writeMembers l (level + 1) rest ++ l.afterLast level ++ ['}']
  | leaf => writeLeaf l.charset leaf

/-- The items of a list after its first. -/
def writeItems (l : Layout) (level : Nat) : List Json → List Char
  | [] => []
  | item :: rest => ',' :: l.afterComma level ++ write l level item ++ writeItems l level rest

/-- The members of an object after its first. -/
def writeMembers (l : Layout) (level : Nat) : Members → List Char
  | [] => []
  | (name, value) :: rest =>
    ',' :: l.afterComma level ++ writeString l.charset name ++ ':' :: l.afterColon
      ++ write l level value ++ writeMembers l level rest

end

/-- Nothing but the value's own characters. -/
def Layout.compact : Layout where
  charset := .unicode
  beforeItem _ := []
  afterComma _ := []
  afterLast _ := []
  afterColon := []

/-- One line, with a blank behind every comma and colon. -/
def Layout.spaced (charset : Charset) : Layout where
  charset := charset
  beforeItem _ := []
  afterComma _ := [' ']
  afterLast _ := []
  afterColon := [' ']

/-- A new line, and two blanks for every level. -/
def newLine (level : Nat) : List Char := '\n' :: List.replicate (2 * level) ' '

/-- One item a line. -/
def Layout.indented (charset : Charset) : Layout where
  charset := charset
  beforeItem := newLine
  afterComma := newLine
  afterLast := newLine
  afterColon := [' ']

mutual

/-- The texts in a value, names among them, in the order they are written in. -/
def texts : Json → List Text
  | .str t => [t]
  | .arr items => itemTexts items
  | .obj members => memberTexts members
  | _ => []

/-- The texts in items. -/
def itemTexts : List Json → List Text
  | [] => []
  | item :: rest => texts item ++ itemTexts rest

/-- The texts in members. -/
def memberTexts : Members → List Text
  | [] => []
  | (name, value) :: rest => name :: texts value ++ memberTexts rest

end

/-- Why a value cannot be written in encoded characters alone: the fault of its first text that has
no encoding. -/
def encodingFault? (v : Json) : Option EncodingFault := v.texts.findSome? Text.encodingFault?

/-- The value on one line, without blanks. -/
def compact (v : Json) : String := String.ofList (write .compact 0 v)

/-- The value on one line, in ASCII, with blanks between its parts, however long its numbers are. -/
def spaced (v : Json) : String := String.ofList (write (.spaced .ascii) 0 v)

/-- The value with one item a line. -/
def indented (charset : Charset) (v : Json) : String :=
  String.ofList (write (.indented charset) 0 v)

end Json

end TagSearch
