import TagSearch.Predicate.Basic

/-!
# Evaluating predicates

`Predicate.holds` decides a predicate on the tags of one item.
-/

namespace TagSearch

namespace Predicate

mutual

/-- Whether a predicate holds of an item's tags. -/
def holds (tags : List Int) : Predicate → Bool
  | .overlaps ids mustOverlap => ids.meets tags == mustOverlap
  | .all children => holdAll tags children
  | .any children => holdsAny tags children

/-- Whether all of them hold. -/
def holdAll (tags : List Int) : List Predicate → Bool
  | [] => true
  | p :: rest => holds tags p && holdAll tags rest

/-- Whether one of them holds. -/
def holdsAny (tags : List Int) : List Predicate → Bool
  | [] => false
  | p :: rest => holds tags p || holdsAny tags rest

end

/-- All children hold. -/
theorem holdAll_eq_all (tags : List Int) (ps : List Predicate) :
    holdAll tags ps = ps.all (holds tags) := by
  induction ps with
  | nil => rfl
  | cons p rest ih => simp [holdAll, ih]

/-- One child holds. -/
theorem holdsAny_eq_any (tags : List Int) (ps : List Predicate) :
    holdsAny tags ps = ps.any (holds tags) := by
  induction ps with
  | nil => rfl
  | cons p rest ih => simp [holdsAny, ih]

end Predicate

end TagSearch
