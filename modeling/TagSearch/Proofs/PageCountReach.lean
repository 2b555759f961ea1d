import TagSearch.Proofs.PageCount

/-!
# How far page counts are exact

`PageCount` follows the rounding of a quotient whose denominator is not too large.  Here the whole range of
page sizes is covered, and it is shown that nothing more can be had.

1.  A positive quotient up to one has the ceiling one, so it only matters that it is not rounded to zero
    (`Binary64.ceil_ofRatio_of_le`).  That happens exactly where it is at most half of the least value of
    the format (`Binary64.ofRatio_of_vanishing`).
2.  One item more than `2 ^ 53`, a page each, is the first number of items that is not counted right
    (`pageCount_beyond`).

`page_count_exact_iff` is the main theorem.
-/

namespace TagSearch

/-- What is at most half of the denominator rounds to zero; a half goes to the even side. -/
theorem divHalfEven_eq_zero {n d : Nat} (hd : 0 < d) (h : 2 * n ≤ d) : divHalfEven n d = 0 := by
  have hdiv : n / d = 0 := Nat.div_eq_of_lt (by omega)
  have hmod : n % d = n := Nat.mod_eq_of_lt (by omega)
  unfold divHalfEven
  simp only [hdiv, hmod]
  split
  · rfl
  · rw [if_neg (by omega)]

/-- A quotient is at most one if its numerator is not the greater number. -/
theorem ratio_le_one {n d : Nat} (hle : n ≤ d) : (n : ℚ) / d ≤ 1 :=
  div_le_one_of_le₀ (by exact_mod_cast hle) (Nat.cast_nonneg d)

/-- Then its ceiling is one. -/
theorem ceil_div_eq_one {n d : Nat} (hn : 0 < n) (hle : n ≤ d) : ⌈(n : ℚ) / d⌉ = 1 := by
  have hdpos : (0 : ℚ) < d := by exact_mod_cast (by omega : 0 < d)
  have hnpos : (0 : ℚ) < n := by exact_mod_cast hn
  rw [Int.ceil_eq_iff, Int.cast_one, sub_self]
  exact ⟨div_pos hnpos hdpos, ratio_le_one hle⟩

namespace Binary64

variable {n d : Nat}

/-- The two ways to write a power of two. -/
theorem twoPow_eq_pow (k : Nat) : twoPow k = 2 ^ k := rfl

/-- The last place of such a quotient is a fraction. -/
theorem lastPlace_neg_of_le (hn : 0 < n) (hle : n ≤ d) : lastPlace n d < 0 := by
  have hone : (n : ℚ) / d ≤ 1 := ratio_le_one hle
  have hbin : (2 : ℚ) ^ binade n d ≤ 2 ^ (0 : Int) := by
    rw [zpow_zero]
    exact (binade_spec hn (by omega)).1.trans hone
  have := (zpow_le_zpow_iff_right₀ one_lt_two).mp hbin
  unfold lastPlace
  omega

/-- A quotient above half of the least value is above half of its last place, which is the least value or
finer than the quotient by far. -/
theorem half_lt_places (hn : 0 < n) (hd : 0 < d) (hlt : d < n * 2 ^ 1075) :
    1 / 2 < (n : ℚ) / d / 2 ^ lastPlace n d := by
  have hdpos : (0 : ℚ) < d := by exact_mod_cast hd
  rw [lt_div_iff₀ (by positivity)]
  rcases le_total (binade n d - 52) (-1074) with hleast | hnormal
  · have hplace : lastPlace n d = -1074 := max_eq_right hleast
    have hprod : (d : ℚ) < n * 2 ^ (1075 : Int) := by exact_mod_cast hlt
    have hsplit : (1 : ℚ) / 2 * 2 ^ (-1074 : Int) * 2 ^ (1075 : Int) = 1 := by
      rw [mul_assoc, ← zpow_add₀ two_ne_zero]
      norm_num
    rw [hplace, lt_div_iff₀ hdpos]
    calc (1 : ℚ) / 2 * 2 ^ (-1074 : Int) * d
        < 1 / 2 * 2 ^ (-1074 : Int) * (n * 2 ^ (1075 : Int)) := by gcongr
      _ = 1 / 2 * 2 ^ (-1074 : Int) * 2 ^ (1075 : Int) * n := by ring
      _ = n := by rw [hsplit, one_mul]
  · have hplace : lastPlace n d = binade n d - 52 := max_eq_left hnormal
    rw [hplace]
    calc (1 : ℚ) / 2 * 2 ^ (binade n d - 52)
        < 2 ^ (52 : Int) * 2 ^ (binade n d - 52) := by gcongr; norm_num
      _ = 2 ^ binade n d := by
          rw [← zpow_add₀ two_ne_zero]
          congr 1
          ring
      _ ≤ n / d := (binade_spec hn hd).1

/-- **A small quotient counts one**, unless it is rounded to zero. -/
theorem ceil_ofRatio_of_le (hn : 0 < n) (hle : n ≤ d) (hlt : d < n * 2 ^ 1075) :
    (ofRatio false n d).ceil? = some 1 := by
  have hd : 0 < d := by omega
  have hneg := lastPlace_neg_of_le hn hle
  have hhalf := half_lt_places hn hd hlt
  obtain ⟨m, herr, hceil⟩ := ceil_ofRatio_places hn hd (by omega)
  rw [hceil]
  obtain ⟨hlow, hhigh⟩ := abs_le.mp herr
  have hwpos := twoPow_pos (-lastPlace n d).toNat
  rw [zpow_of_nonpos (by omega)] at hlow hhigh hhalf ⊢
  rw [div_div_eq_mul_div, div_one] at hlow hhigh hhalf
  generalize twoPow (-lastPlace n d).toNat = w at hlow hhigh hhalf hwpos ⊢
  have hm : 0 < m := by
    have : (0 : ℚ) < m := by linarith
    exact_mod_cast this
  have hmw : m ≤ w := by
    have hscaled : (n : ℚ) / d * w ≤ w :=
      mul_le_of_le_one_left (Nat.cast_nonneg w) (ratio_le_one hle)
    have : (m : ℚ) < w + 1 := by linarith
    have : m < w + 1 := by exact_mod_cast this
    omega
  rw [mul_one_div, ceil_div_eq_one hm hmw]

/-- **What vanishes**: a quotient of at most half of the least value of the format is rounded to zero. -/
theorem ofRatio_of_vanishing (hn : 0 < n) (h : n * 2 ^ 1075 ≤ d) : ofRatio false n d = zero false := by
  have hd : 0 < d := (Nat.mul_pos hn (pow_pos two_pos 1075)).trans_le h
  have hdpos : (0 : ℚ) < d := by exact_mod_cast hd
  have hquot : (n : ℚ) / d ≤ 2 ^ (-1075 : Int) := by
    rw [div_le_iff₀ hdpos, zpow_neg, ← div_eq_inv_mul, le_div_iff₀ (by positivity)]
    exact_mod_cast h
  have hbin := (zpow_le_zpow_iff_right₀ one_lt_two).mp ((binade_spec hn hd).1.trans hquot)
  have hplace : lastPlace n d = -1074 := by
    unfold lastPlace
    omega
  have hround : divHalfEven (n * twoPow 1074) d = 0 := by
    apply divHalfEven_eq_zero hd
    have hsucc : (1075 : ℕ) = 1074 + 1 := rfl
    rw [hsucc, pow_succ'] at h
    rw [twoPow_eq_pow, mul_left_comm]
    exact h
  rw [ofRatio, if_neg hn.ne', hplace]
  show assemble false (divHalfEven (n * twoPow 1074) d) (-1074) = _
  rw [hround]
  rfl

end Binary64

/-- The quotient of two positive numbers is at most half of the least value of the format. -/
def QuotientVanishes (total size : Int) : Prop := 0 < total ∧ total * 2 ^ 1075 ≤ size

/-- A quotient that vanishes is at most one. -/
theorem QuotientVanishes.le {total size : Int} (h : QuotientVanishes total size) : total ≤ size := by
  have hone : (1 : Int) ≤ 2 ^ 1075 := one_le_pow₀ (by decide)
  exact (le_mul_of_one_le_right h.1.le hone).trans h.2

/-- For a size below `2 ^ 1075` no quotient vanishes. -/
theorem not_vanishes_of_lt {total size : Int} (h : size < 2 ^ 1075) : ¬QuotientVanishes total size := by
  rintro ⟨hpos, hle⟩
  have hmul : (2 : Int) ^ 1075 ≤ total * 2 ^ 1075 := le_mul_of_one_le_left (by positivity) hpos
  exact absurd (hmul.trans hle) (not_le.mpr h)

/-- **Counting is exact for every size** that the quotient does not vanish for. -/
theorem pageCount_of_not_vanishes {total size : Int} (hpos : 0 ≤ total) (htotal : total ≤ 2 ^ 53)
    (hsize : 1 ≤ size) (hkeeps : ¬QuotientVanishes total size) :
    pageCount total size = .ok ⌈(total : ℚ) / size⌉ := by
  lift total to ℕ using hpos
  lift size to ℕ using (by omega)
  have hd : 0 < size := by omega
  push_cast
  apply pageCount_of_ceil hd
  rcases Nat.eq_zero_or_pos total with rfl | hn
  · simp [Binary64.ofRatio, Binary64.zero, Binary64.ceil?, Binary64.signed]
  rcases le_total total size with hle | hle
  · rw [ceil_div_eq_one hn hle]
    apply Binary64.ceil_ofRatio_of_le hn hle
    apply lt_of_not_ge
    intro hvanishes
    exact hkeeps ⟨by omega, by exact_mod_cast hvanishes⟩
  · have hmost : total ≤ 2 ^ 53 := by exact_mod_cast htotal
    have hsmall : size < 2 ^ 1075 :=
      lt_of_le_of_lt (hle.trans hmost) (pow_lt_pow_right₀ one_lt_two (by decide))
    exact Binary64.ceil_ofRatio hd hmost hsmall

/-- Where the quotient vanishes no page is counted, though there is one. -/
theorem pageCount_of_vanishes {total size : Int} (h : QuotientVanishes total size) :
    pageCount total size = .ok 0 ∧ ⌈(total : ℚ) / size⌉ = 1 := by
  have hle := h.le
  obtain ⟨hpos, hsmall⟩ := h
  lift total to ℕ using hpos.le
  lift size to ℕ using hpos.le.trans hle
  have hn : 0 < total := by exact_mod_cast hpos
  have hsize : total ≤ size := by exact_mod_cast hle
  constructor
  · apply pageCount_of_ceil (by omega)
    rw [Binary64.ofRatio_of_vanishing hn (by exact_mod_cast hsmall)]
    rfl
  · push_cast
    exact ceil_div_eq_one hn hsize

/-- **The first number of items that is not counted right**, with a page for each of them. -/
theorem pageCount_beyond : pageCount (2 ^ 53 + 1) 1 = .ok (2 ^ 53) := by
  decide +kernel

namespace PageInfo

variable {page size total : Int}

/-- The summary of a page is made whenever its numbers are in order. -/
theorem build_eq (hpage : 1 ≤ page) (hsize : 1 ≤ size) (hpos : 0 ≤ total)
    (htotal : total ≤ 2 ^ 53) (hkeeps : ¬QuotientVanishes total size) :
    build page size total = .ok ⟨page, size, total, ⌈(total : ℚ) / size⌉⟩ := by
  have htotalQ : (0 : ℚ) ≤ total := by exact_mod_cast hpos
  have hsizeQ : (0 : ℚ) ≤ size := by exact_mod_cast (by omega : 0 ≤ size)
  exact build_of_pageCount hpage hpos hsize (Int.ceil_nonneg (div_nonneg htotalQ hsizeQ))
    (pageCount_of_not_vanishes hpos htotal hsize hkeeps)

/-- Where the quotient vanishes, no pages are counted. -/
theorem build_of_vanishes (hpage : 1 ≤ page) (h : QuotientVanishes total size) :
    build page size total = .ok ⟨page, size, total, 0⟩ := by
  have hsize : 1 ≤ size := Int.le_trans h.1 h.le
  exact build_of_pageCount hpage h.1.le hsize le_rfl (pageCount_of_vanishes h).1

end PageInfo

/-- **How far page counts are exact.**  The summary of a page is made, and the number of pages in it is the
ceiling of the exact quotient, for every page, every size for which the quotient does not vanish, and every
number of items up to a bound: exactly if the bound is at most `2 ^ 53`.  Where the quotient vanishes the
summary is made as well, but it counts no page instead of one. -/
theorem page_count_exact_iff (bound : Int) :
    ((∀ page size total : Int, 1 ≤ page → 1 ≤ size → 0 ≤ total → total ≤ bound →
        ¬QuotientVanishes total size →
          PageInfo.build page size total = .ok ⟨page, size, total, ⌈(total : ℚ) / size⌉⟩) ↔
      bound ≤ 2 ^ 53) ∧
    ∀ page size total : Int, 1 ≤ page → QuotientVanishes total size →
      PageInfo.build page size total = .ok ⟨page, size, total, 0⟩ ∧ ⌈(total : ℚ) / size⌉ = 1 := by
  refine ⟨⟨?_, ?_⟩, ?_⟩
  · intro hexact
    by_contra hbound
    have hkeeps : ¬QuotientVanishes (2 ^ 53 + 1) 1 := by
      intro hvanishes
      exact absurd hvanishes.le (by decide)
    have hright := hexact 1 1 (2 ^ 53 + 1) le_rfl le_rfl (by decide) (by omega) hkeeps
    have hwrong : PageInfo.build 1 1 (2 ^ 53 + 1) = .ok ⟨1, 1, 2 ^ 53 + 1, 2 ^ 53⟩ :=
      PageInfo.build_of_pageCount le_rfl (by decide) le_rfl (by decide) pageCount_beyond
    have hpages : (2 ^ 53 : Int) = ⌈((2 ^ 53 + 1 : Int) : ℚ) / ((1 : Int) : ℚ)⌉ :=
      congrArg PageInfo.totalPages (Except.ok.inj (hwrong.symm.trans hright))
    rw [Int.cast_one, div_one, Int.ceil_intCast] at hpages
    exact absurd hpages (by decide)
  · intro hbound page size total hpage hsize hpos htotal hkeeps
    exact PageInfo.build_eq hpage hsize hpos (htotal.trans hbound) hkeeps
  · intro page size total hpage hvanishes
    exact ⟨PageInfo.build_of_vanishes hpage hvanishes, (pageCount_of_vanishes hvanishes).2⟩

/-- At the bound itself a number that is no multiple of the size is counted right; three items on pages that
are long enough are not. -/
theorem page_count_at_bound :
    ¬QuotientVanishes (2 ^ 53) 3 ∧
      PageInfo.build 2 3 (2 ^ 53) = .ok ⟨2, 3, 2 ^ 53, 3002399751580331⟩ ∧
      QuotientVanishes 3 (4 * 2 ^ 1075) ∧
      PageInfo.build 1 (4 * 2 ^ 1075) 3 = .ok ⟨1, 4 * 2 ^ 1075, 3, 0⟩ := by
  obtain ⟨hbound, hzero⟩ := page_count_exact_iff (2 ^ 53)
  have hkeeps : ¬QuotientVanishes (2 ^ 53) 3 := by
    intro hvanishes
    exact absurd hvanishes.le (by decide)
  have hvanishes : QuotientVanishes 3 (4 * 2 ^ 1075) := ⟨by decide, by gcongr; decide⟩
  have hpages : ⌈((2 ^ 53 : Int) : ℚ) / ((3 : Int) : ℚ)⌉ = 3002399751580331 := by
    rw [Int.ceil_eq_iff]
    norm_num
  have hexact := hbound.mpr le_rfl 2 3 (2 ^ 53) (by decide) (by decide) (by decide) le_rfl hkeeps
  rw [hpages] at hexact
  exact ⟨hkeeps, hexact, hvanishes, (hzero 1 _ 3 le_rfl hvanishes).1⟩

/-- **A page that is not counted.**  There is one item, so there is one page, however long pages are. -/
theorem vanishing_quotient_loses_page :
    PageInfo.build 1 (2 ^ 1075) 1 = .ok ⟨1, 2 ^ 1075, 1, 0⟩ ∧
      ⌈((1 : Int) : ℚ) / ((2 ^ 1075 : Int) : ℚ)⌉ = 1 := by
  have hvanishes : QuotientVanishes 1 (2 ^ 1075) := ⟨by decide, (one_mul _).le⟩
  exact ⟨PageInfo.build_of_vanishes le_rfl hvanishes, (pageCount_of_vanishes hvanishes).2⟩

end TagSearch
