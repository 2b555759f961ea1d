/-!
# Sets of code points

The character properties of this library are finite unions of code point ranges.
-/

namespace TagSearch

/-- A set of characters, as inclusive ranges of code points. -/
abbrev CodePoints := List (Nat × Nat)

/-- Whether a character is in one of the ranges. -/
def CodePoints.has (ranges : CodePoints) (c : Char) : Bool :=
  ranges.any fun r => Nat.ble r.1 c.toNat && Nat.ble c.toNat r.2

/-- Membership in words: some range reaches from below to above the code point. -/
theorem CodePoints.has_iff {ranges : CodePoints} {c : Char} :
    ranges.has c = true ↔ ∃ r ∈ ranges, r.1 ≤ c.toNat ∧ c.toNat ≤ r.2 := by
  simp [CodePoints.has]

end TagSearch
