import TagSearch.Digest
import TagSearch.Json.Reader

/-!
# UUIDs

A UUID is a number of 128 bits.  It is read from 32 hexadecimal digits, with or without the four
hyphens, braces or the `urn:uuid:` scheme, and is written with hyphens in lower case.  `Uuid.ofName`
makes the UUID of a name inside a namespace from the digest of both.
-/

namespace TagSearch

/-- A UUID, by its number. -/
structure Uuid where
  value : Nat
  deriving DecidableEq, Repr

namespace Uuid

/-- The sixteen bytes. -/
def bytes (u : Uuid) : List UInt8 := Sha1.toBytes 16 u.value

/-- Two hexadecimal digits for a byte. -/
def byteText (b : UInt8) : List Char :=
  [Nat.digitChar (b.toNat / 16), Nat.digitChar (b.toNat % 16)]

/-- The text with hyphens. -/
def toText (u : Uuid) : String :=
  let digits := u.bytes.flatMap byteText
  let part (start count : Nat) : String := String.ofList ((digits.drop start).take count)
  "-".intercalate [part 0 8, part 8 4, part 12 4, part 16 4, part 20 12]

/-- The number that hexadecimal digits denote. -/
def ofDigits? (cs : List Char) : Option Uuid := do
  let digits ← cs.mapM Json.hexDigit?
  return ⟨digits.foldl (fun n d => 16 * n + d) 0⟩

/-- Digits with hyphens behind the eighth, twelfth, sixteenth and twentieth. -/
def ofHyphenated? (cs : List Char) : Option Uuid :=
  let hyphens := [8, 13, 18, 23].map fun i => cs[i]?
  if cs.length = 36 && hyphens.all (· == some '-') && cs.count '-' = 4 then
    ofDigits? (cs.filter (· != '-'))
  else none

/-- The UUID that a text denotes. -/
def ofText? (text : String) : Option Uuid :=
  let cs := text.toList
  if cs.length = 32 then ofDigits? cs
  else if cs.length = 38 && cs.head? = some '\x7b' && cs.getLast? = some '\x7d' then
    ofHyphenated? ((cs.drop 1).take 36)
  else if "urn:uuid:".toList.isPrefixOf cs then ofHyphenated? (cs.drop 9)
  else ofHyphenated? cs

/-- The UUID of a name in a namespace: the first sixteen bytes of the digest, marked as version 5 of
the standard variant. -/
def ofName (namespaceId : Uuid) (name : String) : Uuid :=
  let hash := (Sha1.digest (namespaceId.bytes ++ name.toUTF8.toList)).take 16
  let marked := hash.mapIdx fun i b =>
    if i = 6 then (b &&& 0x0f) ||| 0x50 else if i = 8 then (b &&& 0x3f) ||| 0x80 else b
  ⟨Sha1.bigEndian marked⟩

end Uuid

end TagSearch
