import Mathlib.Data.Rat.Floor
import Mathlib.Algebra.Order.Field.Power
import Mathlib.Tactic.FieldSimp
import Mathlib.Tactic.Linarith
import Mathlib.Tactic.NormNum
import Mathlib.Tactic.Positivity
import Mathlib.Tactic.Ring
import TagSearch.Search.Page

/-!
# The ceiling of a rounded quotient

The number of pages is read off a quotient that was rounded to the 64-bit format.  Up to a
numerator of `2 ^ 53` the rounding does no harm: either the last place of the quotient is fine enough
to tell it from the whole number below, or the quotient is a value of the format already.

1.  `ratio_scaled` and `binade_spec` say in rational numbers what scaling a quotient does and which
    power of two it lies above.
2.  `abs_divHalfEven_sub_le` bounds the error of rounding by one half of the last place.
3.  `ceil_ofRatio` puts them together.  The number of pages is that ceiling (`pageCount_of_ceil`), and
    counting fails for lack of range alone (`pageCount_or_overflow`).
-/

namespace TagSearch

/-- Rounding to a whole number is off by at most one half. -/
theorem abs_divHalfEven_sub_le (n d : Nat) (hd : 0 < d) :
    |(divHalfEven n d : ℚ) - n / d| ≤ 1 / 2 := by
  have hpos : (0 : ℚ) < d := by exact_mod_cast hd
  have hup : 2 * ((divHalfEven n d : ℚ) * d) ≤ 2 * n + d := by
    exact_mod_cast divHalfEven_le n d hd
  have hdown : 2 * (n : ℚ) ≤ 2 * ((divHalfEven n d : ℚ) * d) + d := by
    exact_mod_cast le_divHalfEven n d hd
  have hn : (n : ℚ) = n / d * d := by field_simp
  rw [abs_le]
  constructor
  · have : (n : ℚ) / d * d ≤ (divHalfEven n d + 1 / 2) * d := by linarith
    linarith [le_of_mul_le_mul_right this hpos]
  · have : (divHalfEven n d : ℚ) * d ≤ (n / d + 1 / 2) * d := by linarith
    linarith [le_of_mul_le_mul_right this hpos]

namespace Binary64

/-- The powers of two as rational numbers. -/
theorem cast_twoPow (k : Nat) : ((twoPow k : Nat) : ℚ) = 2 ^ k := by
  simp [twoPow]

/-- No power of two is zero. -/
theorem twoPow_pos (k : Nat) : 0 < twoPow k := Nat.two_pow_pos k

/-- A power with an exponent that is not negative. -/
theorem zpow_of_nonneg {e : Int} (he : 0 ≤ e) : (2 : ℚ) ^ e = twoPow e.toNat := by
  rw [cast_twoPow, ← zpow_natCast, Int.toNat_of_nonneg he]

/-- A power with one that is not positive. -/
theorem zpow_of_nonpos {e : Int} (he : e ≤ 0) : (2 : ℚ) ^ e = 1 / twoPow (-e).toNat := by
  rw [cast_twoPow, ← zpow_natCast, Int.toNat_of_nonneg (by omega), zpow_neg, one_div, inv_inv]

variable {n d : Nat}

/-- The scaled denominator is positive. -/
theorem scaled_snd_pos (hd : 0 < d) (e : Int) : 0 < (scaled n d e).2 := by
  unfold scaled
  split
  · exact Nat.mul_pos hd (twoPow_pos _)
  · exact hd

/-- Scaling divides the quotient by a power of two. -/
theorem ratio_scaled (hd : 0 < d) (e : Int) :
    ((scaled n d e).1 : ℚ) / (scaled n d e).2 = n / d / 2 ^ e := by
  have hpos : (0 : ℚ) < d := by exact_mod_cast hd
  unfold scaled
  split
  · rename_i he
    rw [zpow_of_nonneg he]
    push_cast
    rw [div_div]
  · rename_i he
    rw [zpow_of_nonpos (by omega)]
    push_cast
    have := twoPow_pos (-e).toNat
    field_simp

/-- The lengths of numerator and denominator enclose the quotient between powers of two. -/
theorem ratio_bounds (hn : 0 < n) (hd : 0 < d) :
    (2 : ℚ) ^ ((n.log2 : Int) - d.log2 - 1) < n / d ∧
      (n : ℚ) / d < 2 ^ ((n.log2 : Int) - d.log2 + 1) := by
  have hdpos : (0 : ℚ) < d := by exact_mod_cast hd
  have hnlow : (2 : ℚ) ^ (n.log2 : Int) ≤ n := by
    rw [zpow_natCast]
    exact_mod_cast Nat.log2_self_le hn.ne'
  have hnhigh : (n : ℚ) < 2 ^ ((n.log2 : Int) + 1) := by
    exact_mod_cast Nat.lt_log2_self
  have hdlow : (2 : ℚ) ^ (d.log2 : Int) ≤ d := by
    rw [zpow_natCast]
    exact_mod_cast Nat.log2_self_le hd.ne'
  have hdhigh : (d : ℚ) < 2 ^ ((d.log2 : Int) + 1) := by
    exact_mod_cast Nat.lt_log2_self
  constructor
  · rw [lt_div_iff₀ hdpos]
    calc (2 : ℚ) ^ ((n.log2 : Int) - d.log2 - 1) * d
        < 2 ^ ((n.log2 : Int) - d.log2 - 1) * 2 ^ ((d.log2 : Int) + 1) := by gcongr
      _ = 2 ^ (n.log2 : Int) := by
          rw [← zpow_add₀ two_ne_zero]
          congr 1
          ring
      _ ≤ n := hnlow
  · rw [div_lt_iff₀ hdpos]
    calc (n : ℚ) < 2 ^ ((n.log2 : Int) + 1) := hnhigh
      _ = 2 ^ ((n.log2 : Int) - d.log2 + 1) * 2 ^ (d.log2 : Int) := by
          rw [← zpow_add₀ two_ne_zero]
          congr 1
          ring
      _ ≤ 2 ^ ((n.log2 : Int) - d.log2 + 1) * d := by gcongr

/-- The guess is tested by comparing scaled numerator and denominator. -/
theorem guess_le_iff (hd : 0 < d) (e : Int) :
    (scaled n d e).2 ≤ (scaled n d e).1 ↔ (2 : ℚ) ^ e ≤ n / d := by
  have hpos : (0 : ℚ) < (scaled n d e).2 := by exact_mod_cast scaled_snd_pos hd e
  rw [← Nat.cast_le (α := ℚ), ← one_le_div hpos, ratio_scaled hd, one_le_div (by positivity)]

/-- The binade of a quotient is the largest power of two below it. -/
theorem binade_spec (hn : 0 < n) (hd : 0 < d) :
    (2 : ℚ) ^ binade n d ≤ n / d ∧ (n : ℚ) / d < 2 ^ (binade n d + 1) := by
  obtain ⟨hlow, hhigh⟩ := ratio_bounds hn hd
  have hiff := guess_le_iff (n := n) hd ((n.log2 : Int) - d.log2)
  unfold binade
  simp only
  split
  · rename_i h
    exact ⟨hiff.mp h, hhigh⟩
  · rename_i h
    refine ⟨hlow.le, ?_⟩
    rw [sub_add_cancel]
    apply lt_of_not_ge
    intro hle
    exact h (hiff.mpr hle)

/-- The ceiling of a quotient, in whole numbers. -/
theorem ceil_natCast_div (m : Nat) {k : Nat} (hk : 0 < k) :
    ⌈(m : ℚ) / k⌉ = ((m + k - 1) / k : Nat) := by
  have hkpos : (0 : ℚ) < k := by exact_mod_cast hk
  have hlow := Nat.div_mul_le_self (m + k - 1) k
  have hhigh := Nat.lt_div_mul_add (a := m + k - 1) hk
  generalize (m + k - 1) / k = c at hlow hhigh
  rw [Int.ceil_eq_iff, lt_div_iff₀ hkpos, div_le_iff₀ hkpos]
  constructor
  · have : (c : ℚ) * k < m + k := by exact_mod_cast (by omega : c * k < m + k)
    push_cast
    linarith
  · exact_mod_cast (by omega : m ≤ c * k)

/-- The ceiling of a finite number is that of its value. -/
theorem ceil?_finite (m : Nat) (e : Int) :
    (finite false m e).ceil? = some ⌈(m : ℚ) * 2 ^ e⌉ := by
  rw [ceil?]
  by_cases he : 0 ≤ e
  · rw [if_pos he, zpow_of_nonneg he, ← Nat.cast_mul, Int.ceil_natCast]
    rfl
  · rw [if_neg he, zpow_of_nonpos (by omega), mul_one_div, ceil_natCast_div m (twoPow_pos _)]
    rfl

/-- Putting a mantissa into the format keeps its ceiling, a carry included, as long as it does not
overflow. -/
theorem ceil?_assemble (m : Nat) {e : Int} (he : e ≤ 970) :
    (assemble false m e).ceil? = some ⌈(m : ℚ) * 2 ^ e⌉ := by
  unfold assemble
  split
  · rename_i hm
    subst hm
    simp [zero, ceil?, signed]
  · split
    · rename_i hm
      have hcarry : (fullMantissa : ℚ) * 2 ^ (e + 1) = m * 2 ^ e := by
        rw [hm, zpow_add_one₀ two_ne_zero]
        push_cast
        ring
      rw [if_neg (by omega), ceil?_finite, hcarry]
    · rw [if_neg (by omega), ceil?_finite]

/-- A number without sign has no negative ceiling. -/
theorem ceil?_assemble_nonneg {m : Nat} {e c : Int} (h : (assemble false m e).ceil? = some c) :
    0 ≤ c := by
  have hfinite : ∀ (k : Nat) (e : Int), (finite false k e).ceil? = some c → 0 ≤ c := by
    intro k e hk
    rw [ceil?_finite, Option.some.injEq] at hk
    rw [← hk]
    positivity
  unfold assemble at h
  split at h
  · exact hfinite 0 0 h
  · split at h
    · split at h
      · cases h
      · exact hfinite _ _ h
    · split at h
      · cases h
      · exact hfinite _ _ h

/-- **Fine places do no harm.**  A quotient that is above a whole number is above it by at least
`1 / d`.  Where that is more than half of a place, rounding does not lead down to the whole number,
and it never leads up past one. -/
theorem ceil_eq_of_fine {w m : Nat} (hd : 0 < d) (hfine : d < 2 * w)
    (herr : |(m : ℚ) - n / d * w| ≤ 1 / 2) : ⌈(m : ℚ) / w⌉ = ⌈(n : ℚ) / d⌉ := by
  have hdpos : (0 : ℚ) < d := by exact_mod_cast hd
  have hw : (0 : ℚ) < w := by exact_mod_cast (by omega : 0 < w)
  obtain ⟨hlow, hhigh⟩ := abs_le.mp herr
  obtain ⟨habove, hbelow⟩ := Int.ceil_eq_iff.mp (rfl : ⌈(n : ℚ) / d⌉ = _)
  generalize ⌈(n : ℚ) / d⌉ = c at habove hbelow ⊢
  rw [Int.ceil_eq_iff, lt_div_iff₀ hw, div_le_iff₀ hw]
  constructor
  · have hstep : (c - 1) * d + 1 ≤ (n : Int) := by
      rw [lt_div_iff₀ hdpos] at habove
      have : (c - 1) * (d : Int) < n := by exact_mod_cast habove
      omega
    have hgap : (c - 1 : ℚ) + 1 / d ≤ n / d := by
      rw [le_div_iff₀ hdpos, add_mul, one_div_mul_cancel hdpos.ne']
      exact_mod_cast hstep
    have hhalf : (1 : ℚ) / 2 < 1 / d * w := by
      rw [one_div_mul_eq_div, lt_div_iff₀ hdpos]
      have : (d : ℚ) < 2 * w := by exact_mod_cast hfine
      linarith
    have := mul_le_mul_of_nonneg_right hgap hw.le
    linarith
  · have hle : (n : ℚ) / d * w ≤ c * w := mul_le_mul_of_nonneg_right hbelow hw.le
    have hlt : (m : Int) < c * w + 1 := by
      have : (m : ℚ) < c * w + 1 := by linarith
      exact_mod_cast this
    exact_mod_cast (by omega : (m : Int) ≤ c * w)

/-- The last place of a quotient up to `2 ^ (52 + k)` is at most `2 ^ k`. -/
theorem lastPlace_le_of_le {k : Nat} (hn0 : 0 < n) (hd : 0 < d) (hn : n ≤ 2 ^ (52 + k)) :
    lastPlace n d ≤ k := by
  have hone : (1 : ℚ) ≤ d := by exact_mod_cast hd
  have hbin : (2 : ℚ) ^ binade n d ≤ 2 ^ ((52 + k : Nat) : Int) :=
    calc (2 : ℚ) ^ binade n d ≤ n / d := (binade_spec hn0 hd).1
      _ ≤ n := div_le_self (by positivity) hone
      _ ≤ 2 ^ ((52 + k : Nat) : Int) := by
          rw [zpow_natCast]
          exact_mod_cast hn
  have := (zpow_le_zpow_iff_right₀ one_lt_two).mp hbin
  unfold lastPlace
  omega

/-- The last place of a quotient up to `2 ^ 53` is at most two. -/
theorem lastPlace_le (hn0 : 0 < n) (hd : 0 < d) (hn : n ≤ 2 ^ 53) : lastPlace n d ≤ 1 :=
  lastPlace_le_of_le hn0 hd hn

/-- **Coarse places are exact.**  Where the last place `u` makes `d * u` two or more, the numerator is
`2 ^ 53` and the quotient is `2 ^ 52` places. -/
theorem ratio_eq_of_coarse (hn0 : 0 < n) (hd : 0 < d) (hn : n ≤ 2 ^ 53) (hsmall : d < 2 ^ 1075)
    (hcoarse : 2 ≤ (d : ℚ) * 2 ^ lastPlace n d) : (n : ℚ) / d = 2 ^ 52 * 2 ^ lastPlace n d := by
  have hdpos : (0 : ℚ) < d := by exact_mod_cast hd
  have hplace : lastPlace n d = binade n d - 52 := by
    unfold lastPlace at hcoarse ⊢
    rcases le_total (binade n d - 52) (-1074) with h | h
    · rw [max_eq_right h] at hcoarse
      have hlt : (d : ℚ) * 2 ^ (-1074 : Int) < 2 ^ (1075 : Int) * 2 ^ (-1074 : Int) := by
        have : (d : ℚ) < 2 ^ (1075 : Int) := by exact_mod_cast hsmall
        gcongr
      have hone : (1075 : Int) + -1074 = 1 := by decide
      rw [← zpow_add₀ two_ne_zero, hone, zpow_one] at hlt
      exact absurd hcoarse (not_le.mpr hlt)
    · exact max_eq_left h
  have hle := (binade_spec hn0 hd).1
  have hsplit : (2 : ℚ) ^ binade n d = 2 ^ 52 * 2 ^ lastPlace n d := by
    rw [hplace, ← zpow_natCast, ← zpow_add₀ two_ne_zero]
    congr 1
    push_cast
    ring
  rw [hsplit, le_div_iff₀ hdpos] at hle
  have htop : (n : ℚ) ≤ 2 ^ 53 := by exact_mod_cast hn
  rw [div_eq_iff hdpos.ne']
  linarith

/-- A rounded quotient is a whole number of last places, off by at most half of one. -/
theorem ceil_ofRatio_places (hn0 : 0 < n) (hd : 0 < d) (hplace : lastPlace n d ≤ 970) :
    ∃ m : Nat, |(m : ℚ) - n / d / 2 ^ lastPlace n d| ≤ 1 / 2 ∧
      (ofRatio false n d).ceil? = some ⌈(m : ℚ) * 2 ^ lastPlace n d⌉ := by
  have herr := abs_divHalfEven_sub_le (scaled n d (lastPlace n d)).1 _
    (scaled_snd_pos (n := n) hd (lastPlace n d))
  rw [ratio_scaled hd] at herr
  refine ⟨_, herr, ?_⟩
  rw [ofRatio, if_neg hn0.ne']
  exact ceil?_assemble _ hplace

/-- **The ceiling survives the rounding** of a quotient whose numerator is at most `2 ^ 53` and whose
denominator leaves it above half of the least value. -/
theorem ceil_ofRatio (hd : 0 < d) (hn : n ≤ 2 ^ 53) (hsmall : d < 2 ^ 1075) :
    (ofRatio false n d).ceil? = some ⌈(n : ℚ) / d⌉ := by
  rcases Nat.eq_zero_or_pos n with rfl | hn0
  · simp [ofRatio, zero, ceil?, signed]
  have hle := lastPlace_le hn0 hd hn
  obtain ⟨m, herr, hceil⟩ := ceil_ofRatio_places hn0 hd (by omega)
  rw [hceil]
  rcases lt_or_ge ((d : ℚ) * 2 ^ lastPlace n d) 2 with hfine | hcoarse
  · have hneg : lastPlace n d ≤ 0 := by
      by_contra hpos
      have hone : (1 : ℚ) ≤ d := by exact_mod_cast hd
      have htwo : (2 : ℚ) ^ (1 : Int) ≤ 2 ^ lastPlace n d :=
        zpow_le_zpow_right₀ one_le_two (by omega)
      have hprod := mul_le_mul hone htwo (by positivity) (by positivity)
      rw [one_mul, zpow_one] at hprod
      exact absurd hfine (not_lt.mpr hprod)
    have hw : (0 : ℚ) < twoPow (-lastPlace n d).toNat := by exact_mod_cast twoPow_pos _
    rw [zpow_of_nonpos hneg] at herr hfine ⊢
    rw [mul_one_div, div_lt_iff₀ hw] at hfine
    rw [div_div_eq_mul_div, div_one] at herr
    rw [mul_one_div]
    exact congrArg some (ceil_eq_of_fine hd (by exact_mod_cast hfine) herr)
  · have hexact := ratio_eq_of_coarse hn0 hd hn hsmall hcoarse
    rw [hexact, mul_div_cancel_right₀ _ (by positivity)] at herr
    have hm : m = 2 ^ 52 := by
      have hlt : |(m : ℚ) - 2 ^ 52| < 1 := lt_of_le_of_lt herr (by norm_num)
      have : |(m : Int) - 2 ^ 52| < 1 := by exact_mod_cast hlt
      have := Int.abs_lt_one_iff.mp this
      omega
    rw [hexact, hm]
    push_cast
    rfl

end Binary64

/-- The number of pages is the ceiling of the rounded quotient, if it has one. -/
theorem pageCount_natCast {total size : Nat} (hsize : 0 < size) :
    pageCount total size =
      (Binary64.ofRatio false total size).ceil?.elim (.error .pageCountOverflow) .ok := by
  have hsign : (decide ((total : Int) < 0) != decide ((size : Int) < 0)) = false := by
    rw [decide_eq_false (by omega), decide_eq_false (by omega)]
    rfl
  rw [pageCount, if_neg (by omega)]
  simp only [hsign, Int.natAbs_natCast]
  cases (Binary64.ofRatio false total size).ceil? <;> rfl

/-- The pages are the ceiling of the rounded quotient, if it has one. -/
theorem pageCount_of_ceil {total size : Nat} {pages : Int} (hsize : 0 < size)
    (hceil : (Binary64.ofRatio false total size).ceil? = some pages) :
    pageCount total size = .ok pages := by
  rw [pageCount_natCast hsize, hceil, Option.elim_some]

/-- Counting pages fails for lack of range alone, and then there are more than `2 ^ 1022` items. -/
theorem pageCount_or_overflow {total size : Int} (hpos : 0 ≤ total) (hsize : 1 ≤ size) :
    (∃ pages, 0 ≤ pages ∧ pageCount total size = .ok pages) ∨
      (2 ^ 1022 < total ∧ pageCount total size = .error .pageCountOverflow) := by
  lift total to ℕ using hpos
  lift size to ℕ using (by omega)
  have hd : 0 < size := by omega
  rw [pageCount_natCast hd]
  rcases Nat.eq_zero_or_pos total with rfl | hn
  · exact Or.inl ⟨0, le_refl 0, rfl⟩
  rw [Binary64.ofRatio, if_neg hn.ne']
  simp only
  generalize hm : divHalfEven _ _ = m
  cases hceil : (Binary64.assemble false m (Binary64.lastPlace total size)).ceil? with
  | some pages => exact Or.inl ⟨pages, Binary64.ceil?_assemble_nonneg hceil, rfl⟩
  | none =>
      refine Or.inr ⟨?_, rfl⟩
      by_contra hle
      have hplace : Binary64.lastPlace total size ≤ (970 : Nat) := by
        apply Binary64.lastPlace_le_of_le hn hd
        rw [← Int.ofNat_le, Nat.cast_pow]
        exact not_lt.mp hle
      rw [Binary64.ceil?_assemble m hplace] at hceil
      cases hceil

/-- A summary whose numbers keep their bounds is read back from its record. -/
theorem PageInfo.decode_toJson {p : PageInfo} (hpage : 1 ≤ p.currentPage) (hsize : 1 ≤ p.pageSize)
    (hitems : 0 ≤ p.totalItems) (hpages : 0 ≤ p.totalPages) :
    decode p.toJson = .accepted p := by
  have hp := Checked.integerFrom_int hpage
  have hs := Checked.integerFrom_int hsize
  have hi := Checked.integerFrom_int hitems
  have hn := Checked.integerFrom_int hpages
  refine Checked.seq_eq_accepted_iff.mpr
    ⟨_, p.totalPages, Checked.seq_eq_accepted_iff.mpr
      ⟨_, p.totalItems, Checked.seq_eq_accepted_iff.mpr
        ⟨_, p.pageSize, Checked.fmap_eq_accepted_iff.mpr ⟨p.currentPage, ?_, rfl⟩, ?_, rfl⟩,
        ?_, rfl⟩, ?_, rfl⟩
  · exact Checked.required_of_lookup rfl hp
  · exact Checked.required_of_lookup rfl hs
  · exact Checked.required_of_lookup rfl hi
  · exact Checked.required_of_lookup rfl hn

/-- The summary of a page is made whenever its pages could be counted. -/
theorem PageInfo.build_of_pageCount {page size total pages : Int} (hpage : 1 ≤ page)
    (hpos : 0 ≤ total) (hsize : 1 ≤ size) (hpages : 0 ≤ pages)
    (hcount : pageCount total size = .ok pages) :
    build page size total = .ok ⟨page, size, total, pages⟩ := by
  rw [build, hcount]
  show ((decode (toJson ⟨page, size, total, _⟩)).conclude "PageInfo" .data).mapError Fault.rejected = _
  rw [decode_toJson hpage hsize hpos hpages]
  rfl

end TagSearch
