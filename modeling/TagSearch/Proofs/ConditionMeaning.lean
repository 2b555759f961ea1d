import TagSearch.Points.Store
import TagSearch.Predicate.Compile
import TagSearch.Predicate.Evaluate

/-!
# What a rendered predicate accepts

`Predicate.condition` renders a predicate for a point store and `Condition.accepts` is how that store
reads the result.  The two agree with `Predicate.holds` node by node, with one exception: a part of a
group that has no conditions demands nothing, so a disjunction without children accepts every point
although it holds of no item.

`Predicate.loosen` puts the predicate that always holds in the place of such disjunctions, and
`accepts_condition` says that what a store accepts is exactly what the loosened predicate holds of.
From that follow

* `condition_agrees_iff`: rendering keeps the meaning of a predicate on given tags exactly when
  loosening does, and always does where every disjunction has a child;
* `bareAny_accepted`: the disjunction without children, where it does not.
-/

namespace TagSearch

namespace Predicate

mutual

/-- The predicate with every disjunction without children replaced by one that always holds. -/
def loosen : Predicate → Predicate
  | .overlaps ids mustOverlap => .overlaps ids mustOverlap
  | .all children => .all (loosenList children)
  | .any children => if children.isEmpty then trivial else .any (loosenList children)

/-- The same for several predicates. -/
def loosenList : List Predicate → List Predicate
  | [] => []
  | p :: rest => loosen p :: loosenList rest

end

mutual

/-- Every disjunction in the predicate has a child. -/
def NoBareAny : Predicate → Prop
  | .overlaps .. => True
  | .all children => NoBareAnyList children
  | .any children => children ≠ [] ∧ NoBareAnyList children

/-- The same for several predicates. -/
def NoBareAnyList : List Predicate → Prop
  | [] => True
  | p :: rest => NoBareAny p ∧ NoBareAnyList rest

end

/-- A list has no bare disjunction if none of its predicates has one. -/
theorem noBareAnyList_iff {ps : List Predicate} : NoBareAnyList ps ↔ ∀ p ∈ ps, p.NoBareAny := by
  induction ps with
  | nil => simp [NoBareAnyList]
  | cons p rest ih => simp [NoBareAnyList, ih]

/-- Every disjunction that criteria are compiled to has a child. -/
theorem noBareAny_compile (criteria : List Criterion) : (compile criteria).NoBareAny := by
  show NoBareAnyList (criteria.map Criterion.predicate)
  rw [noBareAnyList_iff]
  intro p hp
  obtain ⟨c, _, rfl⟩ := List.mem_map.mp hp
  unfold Criterion.predicate Clause.predicate
  split
  · split <;> trivial
  · simp [NoBareAny, NoBareAnyList]

mutual

/-- Loosening changes nothing where every disjunction has a child. -/
theorem loosen_eq_self : ∀ p : Predicate, p.NoBareAny → p.loosen = p
  | .overlaps .., _ => rfl
  | .all children, h => by
      rw [loosen, loosenList_eq_self children h]
  | .any children, h => by
      obtain ⟨hne, hchildren⟩ := h
      rw [loosen, if_neg (by simpa using hne), loosenList_eq_self children hchildren]

/-- Likewise for lists of predicates. -/
theorem loosenList_eq_self : ∀ ps : List Predicate, NoBareAnyList ps → loosenList ps = ps
  | [], _ => rfl
  | p :: rest, h => by
      rw [loosenList, loosen_eq_self p h.1, loosenList_eq_self rest h.2]

end

variable (tags : List Int)

mutual

/-- A predicate that holds also holds when it is loosened: the leaves stay, and no node turns a
statement around. -/
theorem holds_loosen : ∀ p : Predicate, p.holds tags = true → p.loosen.holds tags = true
  | .overlaps .., h => h
  | .all children, h => holdAll_loosenList children h
  | .any children, h => by
      cases children with
      | nil => cases h
      | cons p rest => exact holdsAny_loosenList (p :: rest) h

/-- If all predicates of a list hold, all of them hold when loosened. -/
theorem holdAll_loosenList : ∀ ps : List Predicate,
    holdAll tags ps = true → holdAll tags (loosenList ps) = true
  | [], _ => rfl
  | p :: rest, h => by
      rw [holdAll, Bool.and_eq_true] at h
      rw [loosenList, holdAll, Bool.and_eq_true]
      exact ⟨holds_loosen p h.1, holdAll_loosenList rest h.2⟩

/-- If some predicate of a list holds, some of them holds when loosened. -/
theorem holdsAny_loosenList : ∀ ps : List Predicate,
    holdsAny tags ps = true → holdsAny tags (loosenList ps) = true
  | [], h => by cases h
  | p :: rest, h => by
      rw [holdsAny, Bool.or_eq_true] at h
      rw [loosenList, holdsAny, Bool.or_eq_true]
      exact h.imp (holds_loosen p) (holdsAny_loosenList rest)

end

end Predicate

namespace Condition

variable (payload : Payload)

/-- A condition on any of several ids asks whether the payload has one of them. -/
theorem accepts_hasAny (field : String) (ids : IdSet) :
    (hasAny field ids.toList).accepts payload = ids.meets (idsAt payload field) := by
  rw [Bool.eq_iff_iff, IdSet.meets_iff]
  simp only [accepts, List.any_eq_true, List.contains_eq_mem, decide_eq_true_eq]
  constructor
  · rintro ⟨x, hfield, hid⟩
    exact ⟨x, hid, hfield⟩
  · rintro ⟨x, hid, hfield⟩
    exact ⟨x, hfield, hid⟩

/-- No point is accepted by a group that demands and forbids the same. -/
theorem accepts_never : never.accepts payload = false := by
  simp [never, accepts, acceptsParts, acceptsAll, acceptsAny]

/-- The group of an overlap reads the numbers in the field as the overlap does, whichever of its four
forms it has. -/
theorem accepts_overlapCondition (field : String) (ids : IdSet) (mustOverlap : Bool) :
    (overlapCondition field ids mustOverlap).accepts payload =
      (ids.meets (idsAt payload field) == mustOverlap) := by
  unfold overlapCondition
  by_cases hempty : ids.isEmpty = true
  · have hmeets : ids.meets (idsAt payload field) = false := by
      obtain hnil : ids.toList = [] := by simpa [IdSet.isEmpty] using hempty
      simp [IdSet.meets, hnil]
    rw [if_pos hempty, hmeets]
    cases mustOverlap with
    | true => exact accepts_never payload
    | false => rfl
  · rw [if_neg hempty, ← accepts_hasAny]
    cases mustOverlap <;>
      simp [accepts, acceptsParts, acceptsAll, acceptsAny]

end Condition

namespace Predicate

variable (payload : Payload) (field : String)

mutual

/-- **A store accepts what the loosened predicate holds of.**  The proof is by the nodes of the tree:
a conjunction is a part that demands all, a disjunction one that demands at least one, and only the
disjunction without children becomes a part that demands nothing. -/
theorem accepts_condition : ∀ p : Predicate,
    (p.condition field).accepts payload = p.loosen.holds (Condition.idsAt payload field)
  | .overlaps ids mustOverlap => Condition.accepts_overlapCondition payload field ids mustOverlap
  | .all children => by
      rw [condition, Condition.accepts, Condition.acceptsParts, acceptsAll_conditions children,
        Condition.acceptsParts, Bool.and_true, loosen, holds]
  | .any children => by
      rw [condition, Condition.accepts, Condition.acceptsParts, acceptsAny_conditions children,
        Condition.acceptsParts, Bool.and_true, loosen]
      cases children with
      | nil => rfl
      | cons p rest => rfl

/-- Likewise for the conditions of a conjunction. -/
theorem acceptsAll_conditions : ∀ ps : List Predicate,
    Condition.acceptsAll payload (conditions field ps) =
      holdAll (Condition.idsAt payload field) (loosenList ps)
  | [] => rfl
  | p :: rest => by
      rw [conditions, Condition.acceptsAll, accepts_condition p, acceptsAll_conditions rest,
        loosenList, holdAll]

/-- Likewise for those of a disjunction. -/
theorem acceptsAny_conditions : ∀ ps : List Predicate,
    Condition.acceptsAny payload (conditions field ps) =
      holdsAny (Condition.idsAt payload field) (loosenList ps)
  | [] => rfl
  | p :: rest => by
      rw [conditions, Condition.acceptsAny, accepts_condition p, acceptsAny_conditions rest,
        loosenList, holdsAny]

end

variable {payload field}

/-- Where every disjunction has a child, a store reads the rendered predicate as the predicate. -/
theorem accepts_condition_of_noBareAny {p : Predicate} (h : p.NoBareAny) :
    (p.condition field).accepts payload = p.holds (Condition.idsAt payload field) := by
  rw [accepts_condition, loosen_eq_self p h]

variable {tags : List Int}

/-- **When rendering keeps the meaning.**  On a point whose tag field has the given tags, a store
accepts what the loosened predicate holds of.  So it answers as the predicate does exactly when
loosening it adds nothing for these tags, and always when every disjunction has a child. -/
theorem condition_agrees_iff (hstored : Condition.idsAt payload field = tags) (p : Predicate) :
    (p.condition field).accepts payload = p.loosen.holds tags ∧
      ((p.condition field).accepts payload = p.holds tags ↔
        (p.loosen.holds tags = true → p.holds tags = true)) ∧
      (p.NoBareAny → (p.condition field).accepts payload = p.holds tags) := by
  subst hstored
  have hread := accepts_condition payload field p
  refine ⟨hread, ?_, accepts_condition_of_noBareAny⟩
  rw [hread]
  constructor
  · intro heq hloose
    exact heq ▸ hloose
  · intro hback
    rw [Bool.eq_iff_iff]
    exact ⟨hback, holds_loosen _ p⟩

/-- A conjunction of a mixed pair of overlaps, an overlap with nothing and one that nothing can have,
on an item that carries a tag twice. -/
theorem condition_agrees_on_item :
    let item : Item := { id := .number 1, tags := [5, 5, -2] }
    let p : Predicate :=
      .all [.any [.overlaps (.ofList [7]) true, .overlaps (.ofList [3, 0]) false],
        .overlaps .empty false, .any [.overlaps .empty true, .all []]]
    Condition.idsAt (item.payload {}) "tags_ids" = item.tags ∧ p.NoBareAny ∧
      (p.condition "tags_ids").accepts (item.payload {}) = p.holds item.tags :=
  have hstored : Condition.idsAt (Item.payload {} { id := .number 1, tags := [5, 5, -2] }) "tags_ids"
      = [5, 5, -2] := by decide
  have hbranch : Predicate.NoBareAny
      (.all [.any [.overlaps (.ofList [7]) true, .overlaps (.ofList [3, 0]) false],
        .overlaps .empty false, .any [.overlaps .empty true, .all []]]) := by
    simp [NoBareAny, NoBareAnyList]
  ⟨hstored, hbranch, (condition_agrees_iff hstored _).2.2 hbranch⟩

/-- **A disjunction without children is accepted everywhere.**  It holds of no item, yet its group
has only a part without conditions, which demands nothing. -/
theorem bareAny_accepted :
    ((Predicate.any []).condition "tags_ids").accepts [("tags_ids", Json.ints [])] = true ∧
      (Predicate.any []).holds [] = false := by decide

end Predicate

end TagSearch
