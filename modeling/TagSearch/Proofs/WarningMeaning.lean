import TagSearch.Proofs.CriteriaReading
import TagSearch.Proofs.WarningPlaces

/-!
# Groups that every item satisfies

Two of the warnings about a group of ids say what the group means: that it matches every item, and
that its clause always holds.  The validator gives them by the looks of the group: the first if it is
empty, the second if it requires a tag that it also forbids.  Whether a clause always holds is a
question about all lists of tags, and `Criterion.holds_always_iff` answers it: a group without ids
always holds, and so does one that forbids something and requires everything that it forbids.  An item
that carries exactly one tag, one that is forbidden and not required, tells all others apart.

So the first warning is true, and the second is true only where no other tag is forbidden without being
required (`meaning_of_warnings`); `contradiction_warning_false` is a group where it is not.  Too many
groups are reported in this way, but never too few (`vacuous_group_reported`).
-/

namespace TagSearch

/-- **When a clause always holds.** -/
theorem Criterion.holds_always_iff {c : Criterion} :
    (∀ tags, c.predicate.holds tags = true) ↔
      c.signedIds = [] ∨
        ((∃ v ∈ c.signedIds, v < 0) ∧ ∀ v ∈ c.signedIds, v < 0 → -v ∈ c.signedIds) := by
  simp only [holds_predicate_iff, says_iff]
  constructor
  · intro h
    by_cases hnil : c.signedIds = []
    · exact Or.inl hnil
    refine Or.inr ⟨?_, ?_⟩
    · -- an item without tags has no required one, so there has to be something forbidden
      obtain ⟨v, _, _, htag⟩ | ⟨-, hall | hsome⟩ := h []
      · cases htag
      · obtain ⟨v, hv⟩ := List.exists_mem_of_ne_nil _ hnil
        exact ⟨v, hv, hall v hv⟩
      · exact hsome
    · intro v hv hneg
      -- the item with this forbidden tag alone has to have a required one
      obtain ⟨u, hu, _, htag⟩ | ⟨hlacks, -⟩ := h [-v]
      · obtain rfl := List.mem_singleton.mp htag
        exact hu
      · exact absurd (List.mem_singleton_self (-v)) (hlacks v hv hneg)
  · rintro (hnil | ⟨hsome, hrequired⟩) tags
    · right
      simp [LacksForbidden, AbsenceCounts, hnil]
    · by_cases hmet : ∃ v ∈ c.signedIds, v < 0 ∧ -v ∈ tags
      · obtain ⟨v, hv, hneg, htag⟩ := hmet
        exact Or.inl ⟨-v, hrequired v hv hneg, by omega, htag⟩
      · refine Or.inr ⟨?_, Or.inr hsome⟩
        intro v hv hneg htag
        exact hmet ⟨v, hv, hneg, htag⟩

section

variable {i : Nat} {ids : List Int}

/-- The warning about an empty group is given for the empty group. -/
theorem emptyGroup_mem_iff :
    CriteriaWarning.emptyGroup i ∈ (validateCriterion i (Json.ints ids)).warnings ↔ ids = [] := by
  rw [warnings_validateCriterion_ints]
  cases ids with
  | nil => simp
  | cons v rest => simp [groupWarnings, mem_warnIf]

/-- The validator looks for one id that is there with both signs. -/
theorem contradiction_mem_iff :
    CriteriaWarning.contradiction i ∈ (validateCriterion i (Json.ints ids)).warnings ↔
      ∃ v ∈ ids, 0 < v ∧ -v ∈ ids := by
  rw [warnings_validateCriterion_ints]
  cases ids with
  | nil => simp
  | cons v rest => simp [groupWarnings, mem_warnIf]

end

/-- **What the warnings mean.**  A list of any values has a group of ids at a position; the group
compiles.  The report says of the position that the group matches every item exactly when it is empty,
and then its predicate holds of all tags.  The report says that the clause always holds exactly when
some id is there with both signs, and then it is right exactly when every forbidden id is there with both
signs. -/
theorem meaning_of_warnings {criteria : List Json} {i : Nat} {ids : List Int}
    (hi : criteria[i]? = some (Json.ints ids)) :
    let warnings := (Report.ofVerdict (validate (.arr criteria))).warnings
    ∃ p, Predicate.ofJsonCriterion (Json.ints ids) = .ok p ∧
      ((CriteriaWarning.emptyGroup i).message ∈ warnings ↔ ids = []) ∧
      ((CriteriaWarning.emptyGroup i).message ∈ warnings → ∀ tags, p.holds tags = true) ∧
      ((CriteriaWarning.contradiction i).message ∈ warnings ↔ ∃ v ∈ ids, 0 < v ∧ -v ∈ ids) ∧
      ((CriteriaWarning.contradiction i).message ∈ warnings →
        ((∀ tags, p.holds tags = true) ↔ ∀ v ∈ ids, v < 0 → -v ∈ ids)) := by
  intro warnings
  have hempty := (message_mem_warnings_iff (w := .emptyGroup i) rfl hi).trans emptyGroup_mem_iff
  have hboth := (message_mem_warnings_iff (w := .contradiction i) rfl hi).trans contradiction_mem_iff
  have halways := Criterion.holds_always_iff (c := .group ids)
  refine ⟨(Criterion.group ids).predicate, Predicate.ofJsonCriterion_toJson (.group ids), hempty, ?_,
    hboth, ?_⟩
  · intro hwarned
    exact halways.mpr (Or.inl (hempty.mp hwarned))
  · intro hwarned
    obtain ⟨v, hv, hpos, hneg⟩ := hboth.mp hwarned
    rw [halways]
    constructor
    · rintro (hnil | ⟨-, hrequired⟩)
      · obtain rfl : ids = [] := hnil
        cases hv
      · exact hrequired
    · intro hrequired
      exact Or.inr ⟨⟨-v, hneg, by omega⟩, hrequired⟩

/-- Among a text, an empty group and an id, the group at position 3 requires all that it forbids, so the
warning about it is right. -/
theorem meaning_of_warnings_at_three :
    let criteria : List Json := [.str "x", .arr [], .int 2, Json.ints [3, -3, 0, 7, -7]]
    let warnings := (Report.ofVerdict (validate (.arr criteria))).warnings
    criteria[3]? = some (Json.ints [3, -3, 0, 7, -7]) ∧
      (CriteriaWarning.contradiction 3).message ∈ warnings ∧
      (CriteriaWarning.emptyGroup 3).message ∉ warnings ∧
      ∃ p, Predicate.ofJsonCriterion (Json.ints [3, -3, 0, 7, -7]) = .ok p ∧
        ∀ tags, p.holds tags = true := by
  intro criteria warnings
  have hi : criteria[3]? = some (Json.ints [3, -3, 0, 7, -7]) := rfl
  obtain ⟨p, hp, hempty, -, hboth, hright⟩ := meaning_of_warnings hi
  have hwarned := hboth.mpr ⟨3, by decide, by decide, by decide⟩
  exact ⟨hi, hwarned, mt hempty.mp nofun, p, hp, (hright hwarned).mpr (by decide)⟩

/-- **A warning that is not true.**  The group forbids 7 without requiring it, so an item with this tag
alone does not satisfy it. -/
theorem contradiction_warning_false :
    (CriteriaWarning.contradiction 0).message ∈
        (Report.ofVerdict (validate (.arr [Json.ints [3, -3, -7]]))).warnings ∧
      ∃ p, Predicate.ofJsonCriterion (Json.ints [3, -3, -7]) = .ok p ∧ p.holds [7] = false :=
  ⟨by decide, _, rfl, by decide⟩

end TagSearch
