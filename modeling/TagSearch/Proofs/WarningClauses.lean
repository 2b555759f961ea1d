import Mathlib.Data.List.Dedup
import TagSearch.Proofs.WarningMeaning

/-!
# What the warnings say of the clause

The validator looks for what is odd about a group in its signed ids, with one scan for each oddity.  The
classifier reads the sign of every id once and keeps two sets without signs.  The two views are one:
putting the signs back (`Clause.signedIds`) gives every signed id of the group exactly once
(`Criterion.signedIds_clause_perm`).  Zero has no sign to put back and stands among the required ids, so
nothing is counted twice.

`warnings_match_clause` says of three warnings when they are given, in terms of the clause.

The fourth one counts the ids of a group by their magnitudes, and leaves out zero, which the clause
requires like any other id.  So the count is one too low wherever tag 0 is required:
`many_ids_counted_iff` says when that shows, and `zero_left_uncounted` shows it.
-/

namespace TagSearch

/-- The members of a set stand in its list once. -/
theorem IdSet.nodup (s : IdSet) : s.toList.Nodup := s.sorted.imp Int.ne_of_lt

/-- The ids of a clause with their signs. -/
def Clause.signedIds (c : Clause) : List Int := c.mustHave.toList ++ c.mustNot.toList.map Neg.neg

namespace Criterion

variable (c : Criterion)

/-- The signed ids of a clause are those of its criterion. -/
theorem mem_signedIds_clause {v : Int} : v ∈ c.clause.signedIds ↔ v ∈ c.signedIds := by
  simp only [Clause.signedIds, List.mem_append, List.mem_map, mem_mustHave_iff, mem_mustNot_iff]
  constructor
  · rintro (⟨hv, -⟩ | ⟨x, ⟨hx, -⟩, rfl⟩)
    · exact hv
    · exact hx
  · intro hv
    by_cases hsign : 0 ≤ v
    · exact Or.inl ⟨hv, hsign⟩
    · exact Or.inr ⟨-v, ⟨by rwa [Int.neg_neg], by omega⟩, Int.neg_neg v⟩

/-- None of them comes twice. -/
theorem nodup_signedIds_clause : c.clause.signedIds.Nodup := by
  refine List.Nodup.append (IdSet.nodup _) ((IdSet.nodup _).map fun _ _ => Int.neg_inj.mp) ?_
  intro v hhave hnot
  obtain ⟨x, hx, rfl⟩ := List.mem_map.mp hnot
  have hpos := (mem_mustNot_iff.mp hx).2
  have hneg := (mem_mustHave_iff.mp hhave).2
  omega

/-- **A clause with its signs put back** has every signed id of the criterion once. -/
theorem signedIds_clause_perm : c.clause.signedIds.Perm c.signedIds.dedup := by
  rw [List.perm_ext_iff_of_nodup c.nodup_signedIds_clause (List.nodup_dedup _)]
  intro v
  rw [c.mem_signedIds_clause, List.mem_dedup]

/-- So the two sets together have as many members as there are different signed ids. -/
theorem length_mustHave_add_mustNot :
    c.clause.mustHave.toList.length + c.clause.mustNot.toList.length = c.signedIds.dedup.length := by
  rw [← c.signedIds_clause_perm.length_eq, Clause.signedIds, List.length_append, List.length_map]

/-- An id is repeated exactly when the clause is smaller than the criterion. -/
theorem not_nodup_iff_clause : ¬c.signedIds.Nodup ↔
    c.clause.mustHave.toList.length + c.clause.mustNot.toList.length < c.signedIds.length := by
  rw [length_mustHave_add_mustNot]
  constructor
  · intro hrepeated
    refine Nat.lt_of_le_of_ne (List.dedup_sublist _).length_le ?_
    intro hlength
    exact hrepeated (List.dedup_eq_self.mp ((List.dedup_sublist _).eq_of_length hlength))
  · intro hshort hnodup
    rw [hnodup.dedup] at hshort
    exact Nat.lt_irrefl _ hshort

/-- The two sets meet where an id stands in the criterion with both signs. -/
theorem sets_meet_iff : (∃ x, x ∈ c.clause.mustHave.toList ∧ x ∈ c.clause.mustNot.toList) ↔
    ∃ v ∈ c.signedIds, 0 < v ∧ -v ∈ c.signedIds := by
  simp only [mem_mustHave_iff, mem_mustNot_iff]
  constructor
  · rintro ⟨x, ⟨hx, -⟩, hneg, hpos⟩
    exact ⟨x, hx, hpos, hneg⟩
  · rintro ⟨x, hx, hpos, hneg⟩
    exact ⟨x, ⟨hx, by omega⟩, hneg, hpos⟩

end Criterion

section

variable {i : Nat} {ids : List Int}

/-- The warning about zero is given for groups that have it along with a forbidden id. -/
theorem zeroAmongExclusions_mem_iff :
    CriteriaWarning.zeroAmongExclusions i ∈ (validateCriterion i (Json.ints ids)).warnings ↔
      0 ∈ ids ∧ ∃ v ∈ ids, v < 0 := by
  rw [warnings_validateCriterion_ints]
  cases ids with
  | nil => simp
  | cons v rest => simp [groupWarnings, mem_warnIf]

/-- The warning about duplicates is given for groups that have some. -/
theorem duplicates_mem_iff :
    CriteriaWarning.duplicates i ∈ (validateCriterion i (Json.ints ids)).warnings ↔ ¬ids.Nodup := by
  rw [warnings_validateCriterion_ints]
  by_cases hnil : ids = []
  · simp [hnil]
  · simp [hnil, groupWarnings, mem_warnIf]

end

/-- A criterion as it is written is read as its clause. -/
theorem Clause.ofJson_toJson (c : Criterion) : Clause.ofJson c.toJson = .ok c.clause := by
  rw [Clause.ofJson, Requirement.listOfJson_toJson]
  rfl

/-- **The warnings agree with the classifier.**  A group of ids, handed over as unchecked data, has a
clause.  Validating the group alone warns that tag 0 stands among exclusions exactly when the clause
requires 0 and forbids something, warns of duplicates exactly when the clause has fewer ids than the
group, and warns that one tag is both required and forbidden exactly when the two sets of the clause have
a member in common. -/
theorem warnings_match_clause (ids : List Int) :
    let warnings := (Report.ofVerdict (validate (.arr [Json.ints ids]))).warnings
    ∃ clause, Clause.ofJson (Json.ints ids) = .ok clause ∧
      ((CriteriaWarning.zeroAmongExclusions 0).message ∈ warnings ↔
        0 ∈ clause.mustHave.toList ∧ clause.mustNot.toList ≠ []) ∧
      ((CriteriaWarning.duplicates 0).message ∈ warnings ↔
        clause.mustHave.toList.length + clause.mustNot.toList.length < ids.length) ∧
      ((CriteriaWarning.contradiction 0).message ∈ warnings ↔
        ∃ x, x ∈ clause.mustHave.toList ∧ x ∈ clause.mustNot.toList) := by
  intro warnings
  have hgroup : [Json.ints ids][0]? = some (Json.ints ids) := rfl
  have hzero := (message_mem_warnings_iff (w := .zeroAmongExclusions 0) rfl hgroup).trans
    zeroAmongExclusions_mem_iff
  have htwice := (message_mem_warnings_iff (w := .duplicates 0) rfl hgroup).trans duplicates_mem_iff
  have hboth := (message_mem_warnings_iff (w := .contradiction 0) rfl hgroup).trans
    contradiction_mem_iff
  refine ⟨_, Clause.ofJson_toJson (.group ids), hzero.trans ?_,
    htwice.trans (Criterion.not_nodup_iff_clause (.group ids)), hboth.trans ?_⟩
  · rw [Criterion.mem_mustHave_iff, and_iff_left (Int.le_refl 0)]
    have hforbids := Criterion.isEmpty_mustNot_iff (c := .group ids)
    rw [IdSet.isEmpty, List.isEmpty_eq_false_iff] at hforbids
    exact and_congr_right' hforbids.symm
  · exact (Criterion.sets_meet_iff (.group ids)).symm

/-- The ids of the tags that a clause mentions. -/
def Clause.tagIds (c : Clause) : IdSet := .ofList (c.mustHave.toList ++ c.mustNot.toList)

namespace Criterion

variable (c : Criterion)

/-- A criterion mentions the tag of every id in it. -/
theorem mem_tagIds_iff {x : Int} :
    x ∈ c.clause.tagIds.toList ↔ ∃ v ∈ c.signedIds, (v.natAbs : Int) = x := by
  rw [Clause.tagIds, IdSet.mem_toList_ofList, List.mem_append, mem_mustHave_iff, mem_mustNot_iff]
  constructor
  · intro h
    rcases h with ⟨hx, hsign⟩ | ⟨hx, hpos⟩
    · exact ⟨x, hx, by omega⟩
    · exact ⟨-x, hx, by omega⟩
  · intro h
    obtain ⟨v, hv, rfl⟩ := h
    by_cases hsign : 0 ≤ v
    · rw [show (v.natAbs : Int) = v by omega]
      exact Or.inl ⟨hv, hsign⟩
    · rw [show (v.natAbs : Int) = -v by omega, Int.neg_neg]
      exact Or.inr ⟨hv, by omega⟩

/-- Tag 0 has no sign to forbid it with, so a clause that mentions it requires it. -/
theorem zero_mem_tagIds_iff : 0 ∈ c.clause.tagIds.toList ↔ 0 ∈ c.clause.mustHave.toList := by
  rw [Clause.tagIds, IdSet.mem_toList_ofList, List.mem_append, mem_mustNot_iff]
  exact or_iff_left fun h => Int.lt_irrefl 0 h.2

/-- **What is counted** are the ids that the clause mentions, tag 0 apart. -/
theorem magnitudeCount_signedIds :
    magnitudeCount c.signedIds = (c.clause.tagIds.toList.erase 0).length := by
  rw [magnitudeCount, c.clause.tagIds.nodup.erase_eq_filter]
  refine congrArg List.length
    (IdSet.eq_of_mem_iff (IdSet.sorted _) (c.clause.tagIds.sorted.filter _) ?_)
  intro x
  rw [IdSet.mem_toList_ofList, List.mem_filter, mem_tagIds_iff, List.mem_map]
  constructor
  · intro h
    obtain ⟨v, hv, rfl⟩ := h
    obtain ⟨hmem, hne⟩ := List.mem_filter.mp hv
    exact ⟨⟨v, hmem, rfl⟩, by simpa using hne⟩
  · intro h
    obtain ⟨⟨v, hv, rfl⟩, hne⟩ := h
    exact ⟨v, List.mem_filter.mpr ⟨hv, by simpa using hne⟩, rfl⟩

/-- So the count is short by one exactly where tag 0 is required. -/
theorem length_tagIds : c.clause.tagIds.toList.length =
    magnitudeCount c.signedIds + if 0 ∈ c.clause.mustHave.toList then 1 else 0 := by
  rw [magnitudeCount_signedIds]
  by_cases hzero : 0 ∈ c.clause.mustHave.toList
  · have hmem := c.zero_mem_tagIds_iff.mpr hzero
    have hsome := List.length_pos_of_mem hmem
    rw [if_pos hzero, List.length_erase_of_mem hmem]
    omega
  · rw [if_neg hzero, List.erase_of_not_mem (mt c.zero_mem_tagIds_iff.mp hzero)]
    rfl

/-- Ids in increasing order, none of them negative, are all the ids of their clause. -/
theorem toList_tagIds_of_pairwise {ids : List Int} (hids : ids.Pairwise (· < ·))
    (hsign : ∀ v ∈ ids, 0 ≤ v) : (group ids).clause.tagIds.toList = ids := by
  refine IdSet.eq_of_mem_iff (IdSet.sorted _) hids ?_
  intro x
  rw [mem_tagIds_iff]
  constructor
  · intro h
    obtain ⟨v, hv, rfl⟩ := h
    rwa [Int.natAbs_of_nonneg (hsign v hv)]
  · intro hx
    exact ⟨x, hx, Int.natAbs_of_nonneg (hsign x hx)⟩

end Criterion

/-- The warning about many ids is given, with their number, if it is more than a thousand. -/
theorem manyIds_mem_iff {i n : Nat} {ids : List Int} :
    CriteriaWarning.manyIds i n ∈ (validateCriterion i (Json.ints ids)).warnings ↔
      1000 < n ∧ n = magnitudeCount ids := by
  rw [warnings_validateCriterion_ints]
  cases ids with
  | nil =>
      refine iff_of_false (by simp) ?_
      intro h
      obtain ⟨hmany, rfl⟩ := h
      exact absurd hmany (by decide)
  | cons v rest =>
      simp only [groupWarnings, mem_warnIf, List.isEmpty_cons, Bool.false_eq_true, if_false,
        List.mem_append, reduceCtorEq, and_false, false_or, decide_eq_true_eq,
        CriteriaWarning.manyIds.injEq, true_and]
      exact and_congr_left fun h => by rw [h]

/-- **Tag 0 is not counted.**  Validating a group of ids alone warns of `n` ids exactly if `n` is above
1000 and is the number of ids, tag 0 apart, that the clause of the group mentions.  So the warning is
given exactly above 1000 ids, and with their number, except where the clause requires tag 0 and has more
than 1000 ids. -/
theorem many_ids_counted_iff (ids : List Int) :
    let warnings := (Report.ofVerdict (validate (.arr [Json.ints ids]))).warnings
    ∃ clause, Clause.ofJson (Json.ints ids) = .ok clause ∧
      (∀ n, (CriteriaWarning.manyIds 0 n).message ∈ warnings ↔
        1000 < n ∧ n = (clause.tagIds.toList.erase 0).length) ∧
      ((∀ n, (CriteriaWarning.manyIds 0 n).message ∈ warnings ↔
          1000 < n ∧ n = clause.tagIds.toList.length) ↔
        ¬(0 ∈ clause.mustHave.toList ∧ 1000 < clause.tagIds.toList.length)) := by
  intro warnings
  have hgroup : [Json.ints ids][0]? = some (Json.ints ids) := rfl
  have hwarned : ∀ n, (CriteriaWarning.manyIds 0 n).message ∈ warnings ↔
      1000 < n ∧ n = magnitudeCount ids := fun n =>
    (message_mem_warnings_iff (w := .manyIds 0 n) rfl hgroup).trans manyIds_mem_iff
  refine ⟨_, Clause.ofJson_toJson (.group ids), ?_, ?_⟩
  · rw [← Criterion.magnitudeCount_signedIds]
    exact hwarned
  · have hlength : (Criterion.group ids).clause.tagIds.toList.length = _ :=
      (Criterion.group ids).length_tagIds
    by_cases hzero : 0 ∈ (Criterion.group ids).clause.mustHave.toList
    · rw [if_pos hzero] at hlength
      rw [and_iff_right hzero, hlength]
      constructor
      · intro hright hmany
        -- the true number is not the one that was counted
        have htrue := ((hwarned _).mp ((hright _).mpr ⟨hmany, rfl⟩)).2
        exact Nat.succ_ne_self _ htrue
      · intro hfew n
        rw [hwarned n]
        constructor
        · intro h
          exact absurd (h.2 ▸ Nat.lt_succ_of_lt h.1) hfew
        · intro h
          exact absurd (h.2 ▸ h.1) hfew
    · rw [if_neg hzero] at hlength
      rw [hlength]
      exact iff_of_true hwarned fun h => hzero h.1

/-- **A group of 1001 ids without a warning**: the ids from 0 to 1000. -/
theorem zero_left_uncounted :
    let ids : List Int := (List.range 1001).map Nat.cast
    ∃ clause, Clause.ofJson (Json.ints ids) = .ok clause ∧ clause.tagIds.toList.length = 1001 ∧
      ∀ n, (CriteriaWarning.manyIds 0 n).message ∉
        (Report.ofVerdict (validate (.arr [Json.ints ids]))).warnings := by
  intro ids
  have hids : ids.Pairwise (· < ·) :=
    List.pairwise_map.mpr (List.pairwise_lt_range.imp Int.ofNat_lt.mpr)
  have hsign : ∀ v ∈ ids, 0 ≤ v := by
    intro v hv
    obtain ⟨k, -, rfl⟩ := List.mem_map.mp hv
    exact Int.natCast_nonneg k
  have hall := Criterion.toList_tagIds_of_pairwise hids hsign
  have hlength : (Criterion.group ids).clause.tagIds.toList.length = 1001 := by
    rw [hall, List.length_map, List.length_range]
  have hzero : 0 ∈ (Criterion.group ids).clause.mustHave.toList := by
    rw [← Criterion.zero_mem_tagIds_iff, hall]
    exact List.mem_map.mpr ⟨0, List.mem_range.mpr (by decide), rfl⟩
  have hcount := Criterion.length_tagIds (.group ids)
  rw [hlength, if_pos hzero, Criterion.signedIds] at hcount
  refine ⟨_, Clause.ofJson_toJson (.group ids), hlength, ?_⟩
  intro n hn
  have hmany := manyIds_mem_iff.mp ((message_mem_warnings_iff (w := .manyIds 0 n) rfl rfl).mp hn)
  omega

end TagSearch
