/-!
# Rounding a quotient

Every rounded number of this library comes from one rule: take the nearest whole number, and of two
equally near ones the even one.  `divHalfEven_le` and `le_divHalfEven` bound the error by one half.
-/

namespace TagSearch

/-- The whole number nearest to `n / d`; of two equally near ones, the even one. -/
def divHalfEven (n d : Nat) : Nat :=
  let quotient := n / d
  let twice := 2 * (n % d)
  if twice < d then quotient
  else if d < twice then quotient + 1
  else quotient + quotient % 2

/-- A quotient without remainder is kept. -/
theorem divHalfEven_mul (q d : Nat) (hd : 0 < d) : divHalfEven (q * d) d = q := by
  simp [divHalfEven, hd]

/-- Rounding moves up by at most one half. -/
theorem divHalfEven_le (n d : Nat) (hd : 0 < d) :
    2 * (divHalfEven n d * d) ≤ 2 * n + d := by
  have h := Nat.div_add_mod' n d
  have hr := Nat.mod_lt n hd
  have he : n / d % 2 = 0 ∨ n / d % 2 = 1 := by omega
  unfold divHalfEven
  simp only
  split
  · omega
  · split
    · rw [Nat.add_mul]; omega
    · rcases he with he | he <;> rw [he, Nat.add_mul] <;> omega

/-- Rounding moves down by at most one half. -/
theorem le_divHalfEven (n d : Nat) (hd : 0 < d) :
    2 * n ≤ 2 * (divHalfEven n d * d) + d := by
  have h := Nat.div_add_mod' n d
  have hr := Nat.mod_lt n hd
  have he : n / d % 2 = 0 ∨ n / d % 2 = 1 := by omega
  unfold divHalfEven
  simp only
  split
  · omega
  · split
    · rw [Nat.add_mul]; omega
    · rcases he with he | he <;> rw [he, Nat.add_mul] <;> omega

end TagSearch
