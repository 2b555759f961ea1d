import Mathlib.Data.List.Forall2
import TagSearch.Points.Render
import TagSearch.Proofs.CompiledEquality

/-!
# Well-formed conditions for criteria

A condition can be written that makes no sense to a point store: a group that demands and forbids the
same, a part that asks for one of no conditions, a list of ids without any.  Rendering writes such
conditions, but only for two kinds of predicates: an overlap that is required of no ids, and a disjunction
without children.  Criteria are never compiled to either.

1.  What a criterion is compiled to has one of three shapes, with the right ids in its leaves
    (`Criterion.isClauseOf_predicate`).
2.  The predicates that are rendered to well-formed conditions, at any depth, are those without the two
    kinds (`Predicate.wellFormed_condition_iff`), and the shapes are without them.

`compiled_criteria_render_well` puts the two together, with a title beside the criteria or none.
-/

namespace TagSearch

/-- A condition that makes sense, and so does every condition in it: no group demands and forbids the
same, where one of several is asked for there is one, and ids are given in increasing order. -/
inductive Condition.WellFormed : Condition → Prop
  | hasAny {field : String} {ids : List Int} (some_id : ids ≠ [])
      (increasing : ids.Pairwise (· < ·)) : WellFormed (.hasAny field ids)
  | hasText {field : String} {text : Text} : WellFormed (.hasText field text)
  | group {parts : List (Demand × List Condition)}
      (no_contradiction : ∀ demanded forbidden, (Demand.must, demanded) ∈ parts →
        (Demand.mustNot, forbidden) ∈ parts → ∀ c ∈ demanded, c ∉ forbidden)
      (some_choice : ∀ choices, (Demand.should, choices) ∈ parts → choices ≠ [])
      (conditions : ∀ demand cs, (demand, cs) ∈ parts → ∀ c ∈ cs, WellFormed c) :
      WellFormed (.group parts)

namespace Condition

/-- The group without parts, which accepts every point. -/
theorem wellFormed_group_nil : (group []).WellFormed := by
  apply WellFormed.group
  · intro demanded forbidden hmust
    cases hmust
  · intro choices hshould
    cases hshould
  · intro demand cs hpart
    cases hpart

/-- A group with one part has nothing to contradict. -/
theorem wellFormed_group_singleton {demand : Demand} {cs : List Condition}
    (hchoice : demand = .should → cs ≠ []) (hcs : ∀ c ∈ cs, c.WellFormed) :
    (group [(demand, cs)]).WellFormed := by
  apply WellFormed.group
  · intro demanded forbidden hmust hnot
    obtain ⟨rfl, -⟩ := Prod.mk.inj (List.mem_singleton.mp hmust)
    cases (Prod.mk.inj (List.mem_singleton.mp hnot)).1
  · intro choices hshould
    obtain ⟨hdemand, rfl⟩ := Prod.mk.inj (List.mem_singleton.mp hshould)
    exact hchoice hdemand.symm
  · intro _ _ hpart
    obtain ⟨-, rfl⟩ := Prod.mk.inj (List.mem_singleton.mp hpart)
    exact hcs

/-- The group that no point meets demands what it forbids. -/
theorem not_wellFormed_never : ¬never.WellFormed := by
  intro h
  cases h with
  | group no_contradiction =>
      exact no_contradiction _ _ List.mem_cons_self (List.mem_cons_of_mem _ List.mem_cons_self) _
        List.mem_cons_self List.mem_cons_self

end Condition

namespace Predicate

/-- No overlap is required of no ids, and every disjunction has a child. -/
inductive Renderable : Predicate → Prop
  | overlaps {ids : IdSet} {mustOverlap : Bool} (some_id : mustOverlap = true → ids.toList ≠ []) :
      Renderable (.overlaps ids mustOverlap)
  | all {children : List Predicate} (hchildren : ∀ p ∈ children, Renderable p) :
      Renderable (.all children)
  | any {children : List Predicate} (some_child : children ≠ [])
      (hchildren : ∀ p ∈ children, Renderable p) : Renderable (.any children)

variable (tagField : String)

/-- The condition of an overlap is well-formed, unless ids are required and there are none. -/
theorem wellFormed_overlapCondition {ids : IdSet} {mustOverlap : Bool}
    (h : mustOverlap = true → ids.toList ≠ []) :
    (overlapCondition tagField ids mustOverlap).WellFormed := by
  rw [overlapCondition]
  by_cases hempty : ids.isEmpty = true
  · cases mustOverlap with
    | true => exact absurd (List.isEmpty_iff.mp hempty) (h rfl)
    | false =>
        rw [if_pos hempty]
        exact Condition.wellFormed_group_nil
  · rw [if_neg hempty]
    apply Condition.wellFormed_group_singleton
    · intro _
      exact List.cons_ne_nil _ _
    · rw [List.forall_mem_singleton]
      exact .hasAny (fun hnil => hempty (List.isEmpty_iff.mpr hnil)) ids.sorted

/-- What can be rendered well is rendered well. -/
theorem Renderable.wellFormed_condition {p : Predicate} (h : p.Renderable) :
    (p.condition tagField).WellFormed := by
  induction h with
  | overlaps some_id => exact wellFormed_overlapCondition tagField some_id
  | all _ ih =>
      rw [condition, conditions_eq_map]
      apply Condition.wellFormed_group_singleton _ (List.forall_mem_map.mpr ih)
      intro hshould
      cases hshould
  | any some_child _ ih =>
      rw [condition, conditions_eq_map]
      apply Condition.wellFormed_group_singleton _ (List.forall_mem_map.mpr ih)
      intro _
      exact mt List.map_eq_nil_iff.mp some_child

mutual

/-- Nothing else is. -/
theorem renderable_of_wellFormed : ∀ p : Predicate, (p.condition tagField).WellFormed → p.Renderable
  | .overlaps ids mustOverlap, h => by
      apply Renderable.overlaps
      intro hmust hnil
      obtain rfl := hmust
      have hempty : ids.isEmpty = true := List.isEmpty_iff.mpr hnil
      rw [condition, overlapCondition, if_pos hempty] at h
      exact Condition.not_wellFormed_never h
  | .all children, h => by
      cases h with
      | group _ _ hparts =>
          exact .all (renderable_of_wellFormed_conditions children
            (hparts .must _ (List.mem_singleton.mpr rfl)))
  | .any children, h => by
      cases h with
      | group _ some_choice hparts =>
          have hpart := List.mem_singleton.mpr (Eq.refl (Demand.should, conditions tagField children))
          refine .any ?_ (renderable_of_wellFormed_conditions children (hparts .should _ hpart))
          intro hnil
          rw [hnil] at hpart some_choice
          exact some_choice _ hpart rfl

/-- Likewise for a list of predicates. -/
theorem renderable_of_wellFormed_conditions : ∀ ps : List Predicate,
    (∀ c ∈ conditions tagField ps, c.WellFormed) → ∀ p ∈ ps, p.Renderable
  | [], _ => nofun
  | p :: rest, h => by
      rw [conditions, List.forall_mem_cons] at h
      rw [List.forall_mem_cons]
      exact ⟨renderable_of_wellFormed p h.1, renderable_of_wellFormed_conditions rest h.2⟩

end

/-- **Renderable predicates are those that become well-formed conditions.** -/
theorem wellFormed_condition_iff {p : Predicate} :
    (p.condition tagField).WellFormed ↔ p.Renderable :=
  ⟨renderable_of_wellFormed tagField p, Renderable.wellFormed_condition tagField⟩

end Predicate

/-- A title beside a predicate is one more condition that is demanded. -/
theorem wellFormed_queryCondition {s : Settings} {p : Predicate} (title : Option Text)
    (h : (p.condition s.tagField).WellFormed) :
    ∃ condition, queryCondition s (some p) title = some condition ∧ condition.WellFormed := by
  refine ⟨_, rfl, Condition.wellFormed_group_singleton nofun ?_⟩
  intro c hc
  rcases List.mem_append.mp hc with htags | htitle
  · obtain rfl := List.mem_singleton.mp htags
    exact h
  · cases title with
    | none => cases htitle
    | some t =>
        by_cases hempty : t.isEmpty = true
        · simp [hempty] at htitle
        · have hsingle : c ∈ [Condition.hasText s.titleField t] := by simpa [hempty] using htitle
          obtain rfl := List.mem_singleton.mp hsingle
          exact .hasText

namespace Predicate

/-- A leaf for a criterion: it requires one or more ids, none negative, or it forbids positive ids, and
has none of them only for a group without ids. -/
def IsLeafOf (c : Criterion) : Predicate → Prop
  | .overlaps ids true => ids.toList ≠ [] ∧ ∀ x ∈ ids.toList, 0 ≤ x
  | .overlaps ids false => (ids.toList = [] ↔ c = .group []) ∧ ∀ x ∈ ids.toList, 1 ≤ x
  | .all _ | .any _ => False

/-- The predicate of a criterion: a leaf, or the choice between two, of which the first one requires and
the second one forbids. -/
inductive IsClauseOf (c : Criterion) : Predicate → Prop
  | leaf {ids : IdSet} {mustOverlap : Bool} (h : (overlaps ids mustOverlap).IsLeafOf c) :
      IsClauseOf c (.overlaps ids mustOverlap)
  | choice {required forbidden : IdSet} (hrequired : (overlaps required true).IsLeafOf c)
      (hforbidden : (overlaps forbidden false).IsLeafOf c) :
      IsClauseOf c (.any [.overlaps required true, .overlaps forbidden false])

variable {c : Criterion}

/-- A leaf for a criterion can be rendered well. -/
theorem IsLeafOf.renderable {ids : IdSet} {mustOverlap : Bool}
    (h : (overlaps ids mustOverlap).IsLeafOf c) : (overlaps ids mustOverlap).Renderable := by
  apply Renderable.overlaps
  rintro rfl
  exact h.1

/-- So can a clause for one. -/
theorem IsClauseOf.renderable {p : Predicate} (h : p.IsClauseOf c) : p.Renderable := by
  cases h with
  | leaf h => exact h.renderable
  | choice hrequired hforbidden =>
      apply Renderable.any (List.cons_ne_nil _ _)
      rw [List.forall_mem_cons, List.forall_mem_singleton]
      exact ⟨hrequired.renderable, hforbidden.renderable⟩

end Predicate

namespace Criterion

variable (c : Criterion)

/-- Only the empty group has no ids. -/
theorem signedIds_eq_nil_iff : c.signedIds = [] ↔ c = .group [] := by
  cases c with
  | tag v => exact iff_of_false (List.cons_ne_nil v []) nofun
  | group ids => rw [signedIds, group.injEq]

/-- Where ids are required, an overlap with them is a leaf for the criterion. -/
theorem isLeafOf_mustHave (h : c.clause.mustHave.isEmpty = false) :
    (Predicate.overlaps c.clause.mustHave true).IsLeafOf c := by
  constructor
  · exact List.isEmpty_eq_false_iff.mp h
  · intro x hx
    exact (mem_mustHave_iff.mp hx).2

/-- Where nothing is required or something is forbidden, an empty forbidden set means that there are no
ids at all. -/
theorem isLeafOf_mustNot
    (h : c.clause.mustHave.isEmpty = true ∨ c.clause.mustNot.isEmpty = false) :
    (Predicate.overlaps c.clause.mustNot false).IsLeafOf c := by
  constructor
  · rw [← signedIds_eq_nil_iff]
    constructor
    · intro hnil
      have hnot : c.clause.mustNot.isEmpty = true := List.isEmpty_iff.mpr hnil
      rcases h with hhave | hsome
      · rw [List.eq_nil_iff_forall_not_mem]
        intro v hv
        have hneg := isEmpty_mustHave_iff.mp hhave v hv
        have hforbids := isEmpty_mustNot_iff.mpr ⟨v, hv, hneg⟩
        rw [hnot] at hforbids
        cases hforbids
      · rw [hnot] at hsome
        cases hsome
    · intro hnil
      rw [List.eq_nil_iff_forall_not_mem]
      intro x hx
      have hmem := (mem_mustNot_iff.mp hx).1
      rw [hnil] at hmem
      cases hmem
  · intro x hx
    exact (mem_mustNot_iff.mp hx).2

/-- **What a criterion is compiled to.** -/
theorem isClauseOf_predicate : c.predicate.IsClauseOf c := by
  rw [predicate, Clause.predicate_eq]
  by_cases hhave : c.clause.mustHave.isEmpty = true
  · rw [if_pos hhave]
    exact .leaf (c.isLeafOf_mustNot (Or.inl hhave))
  · have hrequired := c.isLeafOf_mustHave (Bool.eq_false_iff.mpr hhave)
    rw [if_neg hhave]
    by_cases hnot : c.clause.mustNot.isEmpty = true
    · rw [if_pos hnot]
      exact .leaf hrequired
    · rw [if_neg hnot]
      exact .choice hrequired (c.isLeafOf_mustNot (Or.inr (Bool.eq_false_iff.mpr hnot)))

end Criterion

/-- **Criteria render to well-formed conditions.**  Criteria handed over as unchecked data compile to the
conjunction of one predicate for each of them, in their order, and each is a leaf or a choice of two
leaves with the right ids.  The condition for that conjunction, with any title or none, is well formed at
every depth. -/
theorem compiled_criteria_render_well (criteria : List Criterion) (s : Settings)
    (title : Option Text) :
    ∃ children condition,
      compileJson (Criterion.listToJson criteria) = .ok (.all children) ∧
      List.Forall₂ Predicate.IsClauseOf criteria children ∧
      queryCondition s (some (.all children)) title = some condition ∧ condition.WellFormed := by
  have hrenderable : (compile criteria).Renderable := by
    apply Predicate.Renderable.all
    rw [List.forall_mem_map]
    intro c _
    exact c.isClauseOf_predicate.renderable
  obtain ⟨condition, hcondition, hwellFormed⟩ :=
    wellFormed_queryCondition title ((Predicate.wellFormed_condition_iff s.tagField).mpr hrenderable)
  refine ⟨criteria.map Criterion.predicate, condition, compileJson_listToJson criteria, ?_,
    hcondition, hwellFormed⟩
  rw [List.forall₂_map_right_iff, List.forall₂_same]
  intro c _
  exact c.isClauseOf_predicate

end TagSearch
