import TagSearch.Predicate.Unchecked

/-!
# The reading of criteria and their compiled form

A criterion can be read off its signed ids: an id that is not negative asks for the tag, a negative
one asks for its absence, and a group needs one of the tags it asks for or none of those it forbids,
as far as it has either.  `Criterion.Says` is that reading.  The compiler never looks at it: it
splits the ids of a criterion into two sets and chooses the shape of a predicate by which of them is
empty.

Both sides have a common normal form.

1.  `Says` holds where some required id is there, or no forbidden one is and the criterion does not
    leave the matter to its required ids alone (`says_iff`).
2.  The predicate of a clause says the same of its two sets (`holds_predicate_iff`), and these have
    exactly the ids of either sign (`mem_mustHave_iff`, `mem_mustNot_iff`).

The main theorem `compileJson_answers` says that any list of criteria, handed over as unchecked data,
is compiled and evaluated without a fault, and that the answer is the plain reading of all of them.
-/

namespace TagSearch

namespace Criterion

/-- What a group of signed ids says of an item's tags. -/
def GroupSays (tags ids : List Int) : Prop :=
  if ids = [] then True
  else if ∀ v ∈ ids, 0 ≤ v then ∃ v ∈ ids, v ∈ tags
  else if ∀ v ∈ ids, v < 0 then ∀ v ∈ ids, -v ∉ tags
  else (∃ v ∈ ids, 0 ≤ v ∧ v ∈ tags) ∨ ∀ v ∈ ids, v < 0 → -v ∉ tags

/-- What a criterion says of an item's tags. -/
def Says (tags : List Int) : Criterion → Prop
  | .tag v => if 0 ≤ v then v ∈ tags else -v ∉ tags
  | .group ids => GroupSays tags ids

/-- Some required id is among the tags. -/
def HasRequired (tags ids : List Int) : Prop := ∃ v ∈ ids, 0 ≤ v ∧ v ∈ tags

/-- No forbidden id is among the tags. -/
def LacksForbidden (tags ids : List Int) : Prop := ∀ v ∈ ids, v < 0 → -v ∉ tags

/-- The ids require nothing, or they forbid something: then the absence of what they forbid is
enough. -/
def AbsenceCounts (ids : List Int) : Prop := (∀ v ∈ ids, v < 0) ∨ ∃ v ∈ ids, v < 0

variable {tags ids : List Int}

/-- The four cases of a group in one. -/
theorem groupSays_iff :
    GroupSays tags ids ↔ HasRequired tags ids ∨ (LacksForbidden tags ids ∧ AbsenceCounts ids) := by
  unfold GroupSays HasRequired LacksForbidden AbsenceCounts
  by_cases hnil : ids = []
  · subst hnil
    simp
  rw [if_neg hnil]
  obtain ⟨w, hw⟩ := List.exists_mem_of_ne_nil ids hnil
  by_cases hpos : ∀ v ∈ ids, 0 ≤ v
  · rw [if_pos hpos]
    constructor
    · rintro ⟨v, hv, htag⟩
      exact Or.inl ⟨v, hv, hpos v hv, htag⟩
    · rintro (⟨v, hv, _, htag⟩ | ⟨_, hneg | ⟨v, hv, hlt⟩⟩)
      · exact ⟨v, hv, htag⟩
      · have := hpos w hw
        have := hneg w hw
        omega
      · have := hpos v hv
        omega
  rw [if_neg hpos]
  by_cases hneg : ∀ v ∈ ids, v < 0
  · rw [if_pos hneg]
    constructor
    · intro h
      exact Or.inr ⟨fun v hv _ => h v hv, Or.inl hneg⟩
    · rintro (⟨v, hv, hle, _⟩ | ⟨h, _⟩)
      · have := hneg v hv
        omega
      · intro v hv
        exact h v hv (hneg v hv)
  · rw [if_neg hneg]
    have hsome : ∃ v ∈ ids, v < 0 := by
      simp only [Classical.not_forall, exists_prop] at hpos
      obtain ⟨v, hv, hlt⟩ := hpos
      exact ⟨v, hv, by omega⟩
    constructor
    · exact Or.imp_right fun h => ⟨h, Or.inr hsome⟩
    · exact Or.imp_right And.left

/-- A single id reads like the group of it. -/
theorem says_iff {c : Criterion} :
    c.Says tags ↔
      HasRequired tags c.signedIds ∨ (LacksForbidden tags c.signedIds ∧ AbsenceCounts c.signedIds) := by
  cases c with
  | group ids => exact groupSays_iff
  | tag v =>
      by_cases h : 0 ≤ v
      · have hlt : ¬ v < 0 := by omega
        simp [Says, signedIds, HasRequired, LacksForbidden, AbsenceCounts, h, hlt]
      · have hlt : v < 0 := by omega
        simp [Says, signedIds, HasRequired, LacksForbidden, AbsenceCounts, h, hlt]

end Criterion

/-- A number that is not negative requires its tag. -/
theorem Requirement.present?_ofSigned (v : Int) :
    (Requirement.ofSigned v).present? = if 0 ≤ v then some v else none := by
  by_cases h : 0 ≤ v
  · simp [ofSigned, present?, h, Int.toNat_of_nonneg h]
  · simp [ofSigned, present?, h]

/-- A negative number forbids the tag of its magnitude. -/
theorem Requirement.absent?_ofSigned (v : Int) :
    (Requirement.ofSigned v).absent? = if v < 0 then some (-v) else none := by
  by_cases h : 0 ≤ v
  · have hlt : ¬ v < 0 := by omega
    simp [ofSigned, absent?, h, hlt]
  · have hlt : v < 0 := by omega
    have habs : (v.natAbs : Int) = -v := by omega
    simp [ofSigned, absent?, h, hlt, habs]

namespace Criterion

/-- The required ids of a criterion are those of its ids that are not negative. -/
theorem mem_mustHave_iff {c : Criterion} {x : Int} :
    x ∈ c.clause.mustHave.toList ↔ x ∈ c.signedIds ∧ 0 ≤ x := by
  simp only [clause, Clause.ofRequirements, requirements, IdSet.mem_toList_ofList,
    List.filterMap_map, List.mem_filterMap, Function.comp_apply, Requirement.present?_ofSigned]
  constructor
  · rintro ⟨v, hv, h⟩
    split at h
    · obtain rfl := Option.some.inj h
      exact ⟨hv, ‹_›⟩
    · cases h
  · rintro ⟨hx, hle⟩
    exact ⟨x, hx, if_pos hle⟩

/-- The forbidden ids of a criterion are the magnitudes of its negative ids. -/
theorem mem_mustNot_iff {c : Criterion} {x : Int} :
    x ∈ c.clause.mustNot.toList ↔ -x ∈ c.signedIds ∧ 0 < x := by
  simp only [clause, Clause.ofRequirements, requirements, IdSet.mem_toList_ofList,
    List.filterMap_map, List.mem_filterMap, Function.comp_apply, Requirement.absent?_ofSigned]
  constructor
  · rintro ⟨v, hv, h⟩
    split at h
    · obtain rfl := Option.some.inj h
      exact ⟨by simpa using hv, by omega⟩
    · cases h
  · rintro ⟨hx, hlt⟩
    refine ⟨-x, hx, ?_⟩
    rw [if_pos (by omega), Int.neg_neg]

end Criterion

/-- A set is empty if nothing is in it. -/
theorem IdSet.isEmpty_iff {s : IdSet} : s.isEmpty = true ↔ ∀ x, x ∉ s.toList := by
  simp [isEmpty, List.eq_nil_iff_forall_not_mem]

/-- **The shape of a clause does not matter.**  Whichever form its predicate takes, it holds where
the required set is met, or where the forbidden one is not and its absence counts. -/
theorem Clause.holds_predicate_iff {c : Clause} {tags : List Int} :
    c.predicate.holds tags = true ↔
      c.mustHave.meets tags = true ∨
        (c.mustNot.meets tags = false ∧ (c.mustHave.isEmpty = true ∨ c.mustNot.isEmpty = false)) := by
  unfold predicate shape
  cases hhave : c.mustHave.isEmpty with
  | true =>
      have hmeets : c.mustHave.meets tags = false := by
        rw [Bool.eq_false_iff, ne_eq, IdSet.meets_iff]
        rintro ⟨x, hx, _⟩
        exact IdSet.isEmpty_iff.mp hhave x hx
      simp [Predicate.holds, hmeets]
  | false =>
      cases hnot : c.mustNot.isEmpty <;>
        simp [Predicate.holds, Predicate.holdsAny]

namespace Criterion

variable {c : Criterion} {tags : List Int}

/-- Tags meet the required ids if they have one of them. -/
theorem meets_mustHave_iff :
    c.clause.mustHave.meets tags = true ↔ HasRequired tags c.signedIds := by
  simp [IdSet.meets_iff, mem_mustHave_iff, HasRequired, and_assoc]

/-- Tags that meet no forbidden id lack all of them. -/
theorem not_meets_mustNot_iff :
    c.clause.mustNot.meets tags = false ↔ LacksForbidden tags c.signedIds := by
  rw [Bool.eq_false_iff, ne_eq, IdSet.meets_iff]
  constructor
  · intro h v hv hlt htag
    refine h ⟨-v, mem_mustNot_iff.mpr ⟨?_, by omega⟩, htag⟩
    rwa [Int.neg_neg]
  · rintro h ⟨x, hx, htag⟩
    obtain ⟨hmem, hpos⟩ := mem_mustNot_iff.mp hx
    refine h (-x) hmem (by omega) ?_
    rwa [Int.neg_neg]

/-- No ids are required exactly if all signed ids are negative. -/
theorem isEmpty_mustHave_iff :
    c.clause.mustHave.isEmpty = true ↔ ∀ v ∈ c.signedIds, v < 0 := by
  simp only [IdSet.isEmpty_iff, mem_mustHave_iff, not_and, Int.not_le]

/-- Some ids are forbidden exactly if some signed id is negative. -/
theorem isEmpty_mustNot_iff :
    c.clause.mustNot.isEmpty = false ↔ ∃ v ∈ c.signedIds, v < 0 := by
  rw [Bool.eq_false_iff, ne_eq, IdSet.isEmpty_iff, Classical.not_forall]
  constructor
  · rintro ⟨x, hx⟩
    obtain ⟨hmem, hpos⟩ := mem_mustNot_iff.mp (Classical.not_not.mp hx)
    exact ⟨-x, hmem, by omega⟩
  · rintro ⟨v, hv, hlt⟩
    refine ⟨-v, Classical.not_not.mpr (mem_mustNot_iff.mpr ⟨?_, by omega⟩)⟩
    rwa [Int.neg_neg]

/-- The predicate of a criterion holds where the criterion is right about the tags. -/
theorem holds_predicate_iff : c.predicate.holds tags = true ↔ c.Says tags := by
  rw [predicate, Clause.holds_predicate_iff, says_iff, meets_mustHave_iff, not_meets_mustNot_iff,
    isEmpty_mustHave_iff, isEmpty_mustNot_iff, AbsenceCounts]

/-- `Criterion.holds` decides the reading. -/
theorem holds_iff : c.holds tags = true ↔ c.Says tags := by
  cases c with
  | tag v => by_cases h : 0 ≤ v <;> simp [holds, Says, h]
  | group ids =>
      have hreq : (ids.filter (0 ≤ ·)).any tags.contains = true ↔ HasRequired tags ids := by
        simp [HasRequired]
      have hforb : ((ids.filter (· < 0)).all fun id => !tags.contains (-id)) = true ↔
          LacksForbidden tags ids := by
        simp only [List.all_filter, List.all_eq_true, Bool.or_eq_true, Bool.not_eq_true',
          decide_eq_false_iff_not, List.contains_eq_mem, LacksForbidden, Decidable.imp_iff_not_or]
      have hsome : (ids.filter (· < 0)).isEmpty = true ↔ ¬ ∃ v ∈ ids, v < 0 := by
        simp
      have hnone : (ids.filter (0 ≤ ·)).isEmpty = true ↔ ∀ v ∈ ids, v < 0 := by
        simp
      -- without a forbidden id nothing can be amiss with the forbidden ones
      have hvacuous : (¬ ∃ v ∈ ids, v < 0) → LacksForbidden tags ids := by
        intro h v hv hlt
        exact absurd ⟨v, hv, hlt⟩ h
      rw [says_iff]
      simp only [holds, groupHolds, signedIds, AbsenceCounts]
      grind

instance : Decidable (c.Says tags) := decidable_of_iff _ holds_iff

end Criterion

/-- Compiled criteria hold of tags exactly if each criterion is right about them. -/
theorem holds_compile_iff {criteria : List Criterion} {tags : List Int} :
    (compile criteria).holds tags = true ↔ ∀ c ∈ criteria, c.Says tags := by
  simp [compile, Predicate.holds, Predicate.holdAll_eq_all, Criterion.holds_predicate_iff]

namespace Requirement

/-- A number that is not negative is read as the tag that it requires. -/
theorem presentOf_int {v : Int} (h : 0 ≤ v) : presentOf (.int v) = .ok (.present v.toNat) := by
  have hid : presentId [("tag_id", .int v)] = .accepted (.present v.toNat) :=
    Checked.map_eq_accepted_iff.mpr
      ⟨v, Checked.required_of_lookup rfl (Checked.integerFrom_int h), rfl⟩
  rw [presentOf, hid]
  rfl

/-- A positive number is read as the tag that it forbids. -/
theorem absentOf_int {v : Int} (h : 0 < v) : absentOf (.int v) = .ok (.absent v.toNat) := by
  have hmore : (Scalar.integer (.int v) >>= Scalar.moreThan 0) = .ok v := by
    show Scalar.moreThan 0 v = .ok v
    rw [Scalar.moreThan, if_pos h]
  have hid : absentId [("tag_id", .int v)] = .accepted (.absent v.toNat) :=
    Checked.map_eq_accepted_iff.mpr
      ⟨v, Checked.required_of_lookup rfl (Checked.ofCause_eq_accepted_iff.mpr hmore), rfl⟩
  rw [absentOf, hid]
  rfl

/-- A signed id is a requirement also where nobody has checked it. -/
theorem ofJson_int (v : Int) : ofJson (.int v) = .ok (ofSigned v) := by
  by_cases h : 0 ≤ v
  · rw [ofJson, if_pos h, presentOf_int h, ofSigned, if_pos h]
  · have hnat : (-v).toNat = v.natAbs := by omega
    rw [ofJson, if_neg h, absentOf_int (by omega), ofSigned, if_neg h, hnat]

/-- A criterion as it is written is read as its requirements. -/
theorem listOfJson_toJson (c : Criterion) : listOfJson c.toJson = .ok c.requirements := by
  cases c with
  | tag v =>
      rw [Criterion.toJson, listOfJson, ofJson_int]
      · rfl
      · intro items hitems
        cases hitems
  | group ids =>
      have hread : (ofJson ∘ Json.int) = fun v => pure (ofSigned v) := funext ofJson_int
      show (ids.map Json.int).mapM ofJson = .ok (ids.map ofSigned)
      rw [List.mapM_map, hread, List.mapM_pure]
      rfl

end Requirement

/-- A criterion as it is written is compiled to its predicate. -/
theorem Predicate.ofJsonCriterion_toJson (c : Criterion) :
    ofJsonCriterion c.toJson = .ok c.predicate := by
  rw [ofJsonCriterion, Clause.ofJson, Requirement.listOfJson_toJson]
  rfl

/-- Criteria as unchecked data are compiled like the criteria themselves. -/
theorem compileJson_listToJson (criteria : List Criterion) :
    compileJson (Criterion.listToJson criteria) = .ok (compile criteria) := by
  have hread : (Predicate.ofJsonCriterion ∘ Criterion.toJson) = fun c => pure c.predicate :=
    funext Predicate.ofJsonCriterion_toJson
  have hall : (criteria.map Criterion.toJson).mapM Predicate.ofJsonCriterion =
      .ok (criteria.map Criterion.predicate) := by
    rw [List.mapM_map, hread, List.mapM_pure]
    rfl
  show ((criteria.map Criterion.toJson).mapM Predicate.ofJsonCriterion >>= fun ps =>
    pure (Predicate.all ps)) = _
  rw [hall]
  rfl

/-- Tags that are whole numbers are taken as they are. -/
theorem tagsOfJson_ints (tags : List Int) : tagsOfJson (Json.ints tags) = .ok tags := by
  have hall : (tags.map Json.int).mapM tagOfJson = .ok (tags.map some) := by
    rw [List.mapM_map]
    exact List.mapM_pure
  show ((tags.map Json.int).mapM tagOfJson >>= fun found =>
    pure (found.filterMap fun tag => tag)) = _
  rw [hall]
  show Except.ok ((tags.map some).filterMap fun tag => tag) = _
  rw [List.filterMap_map]
  exact congrArg Except.ok List.filterMap_some

/-- **Compiled criteria mean what they say.**  Criteria handed over as unchecked data compile, their
predicate can be tried on any list of tags, and the answer is yes exactly when every criterion is
right about the tags. -/
theorem compileJson_answers (criteria : List Criterion) (tags : List Int) :
    ∃ p answer,
      compileJson (Criterion.listToJson criteria) = .ok p ∧
      (Operand.tree p).holds (Json.ints tags) = .ok answer ∧
      (answer = true ↔ ∀ c ∈ criteria, c.Says tags) := by
  refine ⟨compile criteria, (compile criteria).holds tags, compileJson_listToJson criteria, ?_,
    holds_compile_iff⟩
  rw [Operand.holds, tagsOfJson_ints]
  rfl

end TagSearch
