import Mathlib.Data.List.Basic
import TagSearch.Text.Utf8

/-!
# Strings come back from UTF-8

`decodeUtf8_toUTF8`: the characters of a string are what its UTF-8 bytes decode to.

A character takes one byte to four.  The first one tells how many follow and gives the highest bits, and
each of the others gives six more (`continuation_cons`).  The ranges that are narrowed for the second byte
keep out what has a shorter encoding or is no character, so they never keep out a character's own
(`decodeChar_utf8EncodeChar`).
-/

namespace TagSearch

/-- The bytes of a text in UTF-8. -/
theorem toList_toUTF8 (s : String) : s.toUTF8.toList = s.toList.flatMap String.utf8EncodeChar := by
  have hloop : ∀ (bytes : ByteArray) (i : Nat) (front : List UInt8),
      ByteArray.toList.loop bytes i front = front.reverse ++ bytes.data.toList.drop i := by
    intro bytes i front
    fun_induction ByteArray.toList.loop bytes i front with
    | case1 i front hlt ih =>
        have hbyte : i < bytes.data.toList.length := by simpa using hlt
        rw [ih, List.drop_eq_getElem_cons hbyte]
        simp [ByteArray.get!, hlt]
    | case2 i front hge =>
        rw [List.drop_eq_nil_of_le (by simpa using Nat.le_of_not_lt hge)]
        simp
  have hbytes : s.toUTF8 = (s.toList.flatMap String.utf8EncodeChar).toByteArray :=
    String.utf8Encode_toList.symm
  rw [ByteArray.toList, hloop, hbytes, List.toList_data_toByteArray]
  rfl

/-- A byte that follows the first one of a character gives six bits. -/
theorem continuation_cons {wanted read bits low high n : Nat} {rest : List UInt8} (hn : n < 64)
    (hlow : low ≤ n + 128) (hhigh : n + 128 ≤ high) :
    continuation (wanted + 1) read bits low high (UInt8.ofNat (n + 128) :: rest) =
      continuation wanted (read + 1) (bits * 64 + n) 0x80 0xbf rest := by
  have hbyte : (UInt8.ofNat (n + 128)).toNat = n + 128 :=
    UInt8.toNat_ofNat_of_lt' (by simp only [UInt8.size]; omega)
  rw [continuation, hbyte, decide_eq_true hlow, decide_eq_true hhigh, Bool.and_self, if_pos rfl,
    Nat.add_sub_cancel]

/-- A character is decoded from its lead byte and the bytes that it asks for. -/
theorem decodeChar_of_lead {c : Char} {offset first following bits low high : Nat}
    {rest left : List UInt8} (hfirst : 0x80 ≤ first) (hbyte : first < 256)
    (hlead : Utf8Lead.of? first = some ⟨following, bits, low, high⟩)
    (hrest : continuation following 1 bits low high rest = .ok (c.toNat, left)) :
    decodeChar offset (UInt8.ofNat first) rest = .ok (c, offset + 1 + following, left) := by
  have htoNat : (UInt8.ofNat first).toNat = first := UInt8.toNat_ofNat_of_lt' hbyte
  rw [decodeChar, htoNat, if_neg (Nat.not_lt.mpr hfirst), hlead]
  simp only [hrest, Char.ofNat_toNat]

section

variable {c : Char} (offset : Nat) (rest : List UInt8)

/-- A character of ASCII is decoded from its one byte. -/
theorem decodeChar_one (h : c.toNat ≤ 127) :
    decodeChar offset (UInt8.ofNat c.toNat) rest = .ok (c, offset + 1, rest) := by
  have hbyte : (UInt8.ofNat c.toNat).toNat = c.toNat :=
    UInt8.toNat_ofNat_of_lt' (by simp only [UInt8.size]; omega)
  rw [decodeChar, hbyte, if_pos (by omega), Char.ofNat_toNat]

/-- A character of two bytes is decoded from them. -/
theorem decodeChar_two (hone : ¬c.toNat ≤ 127) (h : c.toNat ≤ 2047) :
    decodeChar offset (UInt8.ofNat (c.toNat / 64 % 32 + 192))
        (UInt8.ofNat (c.toNat % 64 + 128) :: rest) = .ok (c, offset + 1 + 1, rest) := by
  have hlead : Utf8Lead.of? (c.toNat / 64 % 32 + 192) = some ⟨1, c.toNat / 64 % 32, 0x80, 0xbf⟩ := by
    rw [Utf8Lead.of?, if_neg (by omega), if_pos (by omega), Nat.add_sub_cancel]
  have hcode : c.toNat / 64 % 32 * 64 + c.toNat % 64 = c.toNat := by omega
  apply decodeChar_of_lead (by omega) (by omega) hlead
  rw [continuation_cons (by omega) (by omega) (by omega), continuation, hcode]

/-- No character of three bytes has a shorter encoding or is a surrogate, so the narrowed ranges let its
second byte through. -/
theorem decodeChar_three (htwo : ¬c.toNat ≤ 2047) (h : c.toNat ≤ 65535) :
    decodeChar offset (UInt8.ofNat (c.toNat / 4096 % 16 + 224))
        (UInt8.ofNat (c.toNat / 64 % 64 + 128) :: UInt8.ofNat (c.toNat % 64 + 128) :: rest) =
      .ok (c, offset + 1 + 2, rest) := by
  have hvalid : c.toNat < 0xd800 ∨ 0xdfff < c.toNat ∧ c.toNat < 0x110000 := c.valid
  have hlead : Utf8Lead.of? (c.toNat / 4096 % 16 + 224) = some ⟨2, c.toNat / 4096 % 16,
      if c.toNat / 4096 % 16 + 224 = 0xe0 then 0xa0 else 0x80,
      if c.toNat / 4096 % 16 + 224 = 0xed then 0x9f else 0xbf⟩ := by
    rw [Utf8Lead.of?, if_neg (by omega), if_neg (by omega), if_pos (by omega), Nat.add_sub_cancel]
  have hcode : (c.toNat / 4096 % 16 * 64 + c.toNat / 64 % 64) * 64 + c.toNat % 64 = c.toNat := by omega
  apply decodeChar_of_lead (by omega) (by omega) hlead
  rw [continuation_cons (by omega) (by split <;> omega) (by split <;> omega),
    continuation_cons (by omega) (by omega) (by omega), continuation, hcode]

/-- None of four bytes has a shorter encoding or lies beyond the last character. -/
theorem decodeChar_four (hthree : ¬c.toNat ≤ 65535) :
    decodeChar offset (UInt8.ofNat (c.toNat / 262144 % 8 + 240))
        (UInt8.ofNat (c.toNat / 4096 % 64 + 128) :: UInt8.ofNat (c.toNat / 64 % 64 + 128) ::
          UInt8.ofNat (c.toNat % 64 + 128) :: rest) = .ok (c, offset + 1 + 3, rest) := by
  have hvalid : c.toNat < 0xd800 ∨ 0xdfff < c.toNat ∧ c.toNat < 0x110000 := c.valid
  have hlead : Utf8Lead.of? (c.toNat / 262144 % 8 + 240) = some ⟨3, c.toNat / 262144 % 8,
      if c.toNat / 262144 % 8 + 240 = 0xf0 then 0x90 else 0x80,
      if c.toNat / 262144 % 8 + 240 = 0xf4 then 0x8f else 0xbf⟩ := by
    rw [Utf8Lead.of?, if_neg (by omega), if_neg (by omega), if_neg (by omega), if_pos (by omega),
      Nat.add_sub_cancel]
  have hcode : ((c.toNat / 262144 % 8 * 64 + c.toNat / 4096 % 64) * 64 + c.toNat / 64 % 64) * 64 +
      c.toNat % 64 = c.toNat := by omega
  apply decodeChar_of_lead (by omega) (by omega) hlead
  rw [continuation_cons (by omega) (by split <;> omega) (by split <;> omega),
    continuation_cons (by omega) (by omega) (by omega),
    continuation_cons (by omega) (by omega) (by omega), continuation, hcode]

end

/-- **A character comes back from its bytes**, whatever stands behind them. -/
theorem decodeChar_utf8EncodeChar (c : Char) :
    ∃ first more, String.utf8EncodeChar c = first :: more ∧ ∀ offset rest,
      ∃ next, decodeChar offset first (more ++ rest) = .ok (c, next, rest) := by
  by_cases hone : c.toNat ≤ 127
  · refine ⟨_, _, if_pos hone, ?_⟩
    intro offset rest
    exact ⟨_, decodeChar_one offset rest hone⟩
  by_cases htwo : c.toNat ≤ 2047
  · refine ⟨_, _, (if_neg hone).trans (if_pos htwo), ?_⟩
    intro offset rest
    exact ⟨_, decodeChar_two offset rest hone htwo⟩
  by_cases hthree : c.toNat ≤ 65535
  · refine ⟨_, _, (if_neg hone).trans ((if_neg htwo).trans (if_pos hthree)), ?_⟩
    intro offset rest
    exact ⟨_, decodeChar_three offset rest htwo hthree⟩
  · refine ⟨_, _, (if_neg hone).trans ((if_neg htwo).trans (if_neg hthree)), ?_⟩
    intro offset rest
    exact ⟨_, decodeChar_four offset rest hthree⟩

/-- Characters come back from their bytes, with as much fuel as there are characters at least. -/
theorem decodeUpTo_flatMap (cs : List Char) {fuel : Nat} (offset : Nat) (hfuel : cs.length ≤ fuel) :
    decodeUpTo fuel offset (cs.flatMap String.utf8EncodeChar) = .ok cs := by
  induction cs generalizing fuel offset with
  | nil => cases fuel <;> rfl
  | cons c cs ih =>
      obtain ⟨fuel, rfl⟩ : ∃ n, fuel = n + 1 := ⟨fuel - 1, by
        rw [List.length_cons] at hfuel
        omega⟩
      obtain ⟨first, more, hencode, hdecode⟩ := decodeChar_utf8EncodeChar c
      obtain ⟨next, hnext⟩ := hdecode offset (cs.flatMap String.utf8EncodeChar)
      have hrest := ih next (Nat.le_of_succ_le_succ hfuel)
      rw [List.flatMap_cons, hencode, List.cons_append, decodeUpTo, hnext]
      simp only [hrest]

/-- A text has at least as many bytes as characters. -/
theorem length_le_flatMap_utf8EncodeChar (cs : List Char) :
    cs.length ≤ (cs.flatMap String.utf8EncodeChar).length := by
  induction cs with
  | nil => exact Nat.le_refl 0
  | cons c cs ih =>
      have hpos := List.length_pos_iff.mpr (String.utf8EncodeChar_ne_nil (c := c))
      rw [List.flatMap_cons, List.length_append, List.length_cons]
      omega

/-- **A string comes back from its bytes.** -/
theorem decodeUtf8_toUTF8 (s : String) : decodeUtf8 s.toUTF8.toList = .ok s.toList := by
  rw [toList_toUTF8]
  exact decodeUpTo_flatMap s.toList 0 (length_le_flatMap_utf8EncodeChar s.toList)

end TagSearch
