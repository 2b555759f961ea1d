/-!
# The SHA-1 digest

The digest of a sequence of bytes: five words of 32 bits, mixed with one block of 64 bytes after the
other.  The message is closed by a one bit, zeros, and its length in bits.
-/

namespace TagSearch

namespace Sha1

/-- The five words between blocks. -/
structure State where
  a : UInt32
  b : UInt32
  c : UInt32
  d : UInt32
  e : UInt32

/-- The words before the first block. -/
def State.start : State where
  a := 0x67452301
  b := 0xefcdab89
  c := 0x98badcfe
  d := 0x10325476
  e := 0xc3d2e1f0

/-- A word turned to the left, by fewer than 32 places. -/
def rotate (places : UInt32) (w : UInt32) : UInt32 := (w <<< places) ||| (w >>> (32 - places))

/-- Bytes read as one number, the first byte being the highest. -/
def bigEndian (bytes : List UInt8) : Nat := bytes.foldl (fun n b => 256 * n + b.toNat) 0

/-- A number as so many bytes, the highest first. -/
def toBytes (count n : Nat) : List UInt8 :=
  (List.range count).reverse.map fun i => UInt8.ofNat (n / Nat.pow 256 i)

/-- A message closed and filled up to whole blocks. -/
def padded (message : List UInt8) : List UInt8 :=
  let fill := (119 - message.length % 64) % 64
  message ++ 0x80 :: List.replicate fill 0 ++ toBytes 8 (8 * message.length)

/-- The first `count` words of a block. -/
def blockWords : (count : Nat) → List UInt8 → List UInt32
  | 0, _ => []
  | n + 1, bytes => UInt32.ofNat (bigEndian (bytes.take 4)) :: blockWords n (bytes.drop 4)

/-- Sixteen words extended by more, each mixed from four earlier ones.  The list is kept with the
latest word first. -/
def extend : (more : Nat) → List UInt32 → List UInt32
  | 0, words => words
  | n + 1, words =>
    let next := rotate 1
      (words.getD 2 0 ^^^ words.getD 7 0 ^^^ words.getD 13 0 ^^^ words.getD 15 0)
    extend n (next :: words)

/-- The mixing function and the constant of a round. -/
def mixing (round : Nat) (s : State) : UInt32 × UInt32 :=
  if round < 20 then ((s.b &&& s.c) ||| (~~~s.b &&& s.d), 0x5a827999)
  else if round < 40 then (s.b ^^^ s.c ^^^ s.d, 0x6ed9eba1)
  else if round < 60 then ((s.b &&& s.c) ||| (s.b &&& s.d) ||| (s.c &&& s.d), 0x8f1bbcdc)
  else (s.b ^^^ s.c ^^^ s.d, 0xca62c1d6)

/-- The rounds from one on, a word each. -/
def rounds : (round : Nat) → List UInt32 → State → State
  | _, [], s => s
  | round, w :: rest, s =>
    let (f, k) := mixing round s
    rounds (round + 1) rest
      { a := rotate 5 s.a + f + s.e + k + w, b := s.a, c := rotate 30 s.b, d := s.c, e := s.d }

/-- The words after one more block. -/
def absorb (s : State) (block : List UInt8) : State :=
  let words := (extend 64 (blockWords 16 block).reverse).reverse
  let t := rounds 0 words s
  { a := s.a + t.a, b := s.b + t.b, c := s.c + t.c, d := s.d + t.d, e := s.e + t.e }

/-- The words after so many blocks. -/
def absorbAll : (blocks : Nat) → List UInt8 → State → State
  | 0, _, s => s
  | n + 1, bytes, s => absorbAll n (bytes.drop 64) (absorb s (bytes.take 64))

/-- The twenty bytes of the digest. -/
def digest (message : List UInt8) : List UInt8 :=
  let bytes := padded message
  let s := absorbAll (bytes.length / 64) bytes .start
  [s.a, s.b, s.c, s.d, s.e].flatMap fun w => toBytes 4 w.toNat

end Sha1

end TagSearch
