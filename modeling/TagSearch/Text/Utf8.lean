/-!
# Reading UTF-8

The text that a sequence of bytes encodes, or the first place where it encodes none.  A fault names
the bytes of the ill-formed sequence: as many as could still have been completed.
-/

namespace TagSearch

/-- What is wrong with a byte sequence. -/
inductive Utf8Cause
  | invalidStart
  | invalidContinuation
  | unexpectedEnd
  deriving DecidableEq, Repr

/-- An ill-formed sequence: its first byte, where it starts and how many bytes it has. -/
structure Utf8Fault where
  cause : Utf8Cause
  byte : Nat
  start : Nat
  length : Nat
  deriving DecidableEq, Repr

/-- A lead byte read: how many bytes follow, the bits it gives, and the range of the next byte. -/
structure Utf8Lead where
  following : Nat
  bits : Nat
  low : Nat
  high : Nat

/-- The sequences of more than one byte, by their first byte. -/
def Utf8Lead.of? (b : Nat) : Option Utf8Lead :=
  if b < 0xc2 then none
  else if b < 0xe0 then some ⟨1, b - 0xc0, 0x80, 0xbf⟩
  else if b < 0xf0 then
    some ⟨2, b - 0xe0, if b = 0xe0 then 0xa0 else 0x80, if b = 0xed then 0x9f else 0xbf⟩
  else if b < 0xf5 then
    some ⟨3, b - 0xf0, if b = 0xf0 then 0x90 else 0x80, if b = 0xf4 then 0x8f else 0xbf⟩
  else none

/-- Continuation bytes: how many are wanted, how many were read, the bits so far, and the range of
the next one.  Yields the code point and the bytes left. -/
def continuation : (wanted read bits low high : Nat) → List UInt8 →
    Except (Utf8Cause × Nat) (Nat × List UInt8)
  | 0, _, bits, _, _, rest => .ok (bits, rest)
  | _ + 1, read, _, _, _, [] => .error (.unexpectedEnd, read)
  | wanted + 1, read, bits, low, high, b :: rest =>
    if low ≤ b.toNat && b.toNat ≤ high then
      continuation wanted (read + 1) (bits * 64 + (b.toNat - 0x80)) 0x80 0xbf rest
    else .error (.invalidContinuation, read)

/-- The first character of a sequence of bytes that starts at an offset, with the offset behind it and
the bytes left. -/
def decodeChar (offset : Nat) (b : UInt8) (rest : List UInt8) :
    Except Utf8Fault (Char × Nat × List UInt8) :=
  if b.toNat < 0x80 then .ok (Char.ofNat b.toNat, offset + 1, rest)
  else
    match Utf8Lead.of? b.toNat with
    | none => .error ⟨.invalidStart, b.toNat, offset, 1⟩
    | some lead =>
      match continuation lead.following 1 lead.bits lead.low lead.high rest with
      | .error (cause, length) => .error ⟨cause, b.toNat, offset, length⟩
      | .ok (code, left) => .ok (Char.ofNat code, offset + 1 + lead.following, left)

/-- At most `fuel` characters of a sequence of bytes that starts at an offset. -/
def decodeUpTo : (fuel offset : Nat) → List UInt8 → Except Utf8Fault (List Char)
  | 0, _, _ => .ok []
  | _ + 1, _, [] => .ok []
  | fuel + 1, offset, b :: rest =>
    match decodeChar offset b rest with
    | .error fault => .error fault
    | .ok (c, next, left) =>
      match decodeUpTo fuel next left with
      | .error fault => .error fault
      | .ok cs => .ok (c :: cs)

/-- The characters that a sequence of bytes encodes. -/
def decodeUtf8 (bytes : List UInt8) : Except Utf8Fault (List Char) :=
  decodeUpTo bytes.length 0 bytes

/-- What is wrong, in words. -/
def Utf8Cause.text : Utf8Cause → String
  | .invalidStart => "invalid start byte"
  | .invalidContinuation => "invalid continuation byte"
  | .unexpectedEnd => "unexpected end of data"

/-- The message for a fault. -/
def Utf8Fault.message (f : Utf8Fault) : String :=
  let subject :=
    if f.length = 1 then
      "byte 0x" ++ String.ofList (Nat.toDigits 16 f.byte) ++ " in position " ++ toString f.start
    else s!"bytes in position {f.start}-{f.start + f.length - 1}"
  "'utf-8' codec can't decode " ++ subject ++ ": " ++ f.cause.text

end TagSearch
