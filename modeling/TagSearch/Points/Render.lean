import TagSearch.Points.Condition
import TagSearch.Predicate.Unchecked
import TagSearch.Search.Service
import TagSearch.Settings.Basic

/-!
# From predicates to conditions

Every node of a predicate becomes a group of conditions: a conjunction one that demands all of its
children, a disjunction one that demands at least one, and an overlap one that demands or forbids
one of its ids.  An overlap with no ids holds of nothing or of everything, and is a group of its own
for either.
-/

namespace TagSearch

/-- A group that no point meets: it demands and forbids the same. -/
def Condition.never : Condition :=
  let marker := Condition.hasAny "__never__" [0]
  .group [(.must, [marker]), (.mustNot, [marker])]

/-- The group for an overlap with the ids in a payload field. -/
def overlapCondition (tagField : String) (ids : IdSet) (mustOverlap : Bool) : Condition :=
  if ids.isEmpty then (if mustOverlap then .never else .group [])
  else
    .group [(if mustOverlap then .must else .mustNot, [.hasAny tagField ids.toList])]

namespace Predicate

mutual

/-- The group for a predicate on the tags in a payload field. -/
def condition (tagField : String) : Predicate → Condition
  | .overlaps ids mustOverlap => overlapCondition tagField ids mustOverlap
  | .all children => .group [(.must, conditions tagField children)]
  | .any children => .group [(.should, conditions tagField children)]

/-- The groups for several predicates. -/
def conditions (tagField : String) : List Predicate → List Condition
  | [] => []
  | p :: rest => condition tagField p :: conditions tagField rest

end

/-- The groups for several predicates, one for each. -/
theorem conditions_eq_map (tagField : String) (ps : List Predicate) :
    conditions tagField ps = ps.map (condition tagField) := by
  induction ps with
  | nil => rfl
  | cons p rest ih => simp [conditions, ih]

end Predicate

/-- The condition of a query, if there is anything to ask for: the predicate's group and the title,
which has to occur in the title field. -/
def queryCondition (s : Settings) (predicate : Option Predicate) (title : Option Text) :
    Option Condition :=
  let tags := (predicate.map (·.condition s.tagField)).toList
  let titles :=
    match title with
    | some t => if t.isEmpty then [] else [Condition.hasText s.titleField t]
    | none => []
  if (tags ++ titles).isEmpty then none else some (.group [(.must, tags ++ titles)])

/-- The same for whatever stands in place of a predicate. -/
def queryConditionOperand (s : Settings) (operand : Operand) (title : Option Text) :
    Except Fault (Option Condition) := do
  return queryCondition s (← operand.predicate?) title

end TagSearch
