import TagSearch.IdSet
import TagSearch.Number.IntText

/-!
# Predicates on tags

A predicate says of an item's tags that they overlap a set of ids or that they do not, or puts such
statements together.  `Predicate.describe` is its compact text.
-/

namespace TagSearch

/-- A statement about the tags of an item. -/
inductive Predicate
  /-- The tags have a member of `ids`, or have none of them. -/
  | overlaps (ids : IdSet) (mustOverlap : Bool)
  /-- All children hold. -/
  | all (children : List Predicate)
  /-- At least one child holds. -/
  | any (children : List Predicate)
  deriving Repr

namespace Predicate

mutual

/-- Equality of trees is decided node by node. -/
def decEq : (p q : Predicate) → Decidable (p = q)
  | .overlaps s a, .overlaps t b =>
    if h : s = t ∧ a = b then .isTrue (by rw [h.1, h.2])
    else .isFalse fun e => h (by injection e with h1 h2; exact ⟨h1, h2⟩)
  | .all ps, .all qs =>
    match decEqList ps qs with
    | .isTrue h => .isTrue (by rw [h])
    | .isFalse h => .isFalse fun e => h (by injection e)
  | .any ps, .any qs =>
    match decEqList ps qs with
    | .isTrue h => .isTrue (by rw [h])
    | .isFalse h => .isFalse fun e => h (by injection e)
  | .overlaps .., .all _ | .overlaps .., .any _ | .all _, .overlaps .. | .all _, .any _
  | .any _, .overlaps .. | .any _, .all _ => .isFalse nofun

/-- Equality of children, one by one. -/
def decEqList : (ps qs : List Predicate) → Decidable (ps = qs)
  | [], [] => .isTrue rfl
  | [], _ :: _ | _ :: _, [] => .isFalse nofun
  | p :: ps, q :: qs =>
    match decEq p q, decEqList ps qs with
    | .isTrue h, .isTrue hs => .isTrue (by rw [h, hs])
    | .isFalse h, _ => .isFalse fun e => h (by injection e)
    | _, .isFalse hs => .isFalse fun e => hs (by injection e)

end

instance : DecidableEq Predicate := decEq

/-- The predicate that holds of every item. -/
def trivial : Predicate := .all []

/-- Ids in increasing order, set apart by commas. -/
def idsText (ids : List Int) : List Char := [','].intercalate (ids.map intText)

mutual

/-- The compact text of a predicate, as characters. -/
def describeChars : Predicate → List Char
  | .overlaps ids mustOverlap =>
    (if mustOverlap then "OVERLAPS\x7b" else "NOT OVERLAPS\x7b").toList ++ idsText ids.toList
      ++ "\x7d".toList
  | .all children => "AND(".toList ++ describeList children ++ [')']
  | .any children => "OR(".toList ++ describeList children ++ [')']

/-- The texts of children, set apart by a comma and a blank. -/
def describeList : List Predicate → List Char
  | [] => []
  | p :: rest =>
    describeChars p ++
      match rest with
      | [] => []
      | _ :: _ => ", ".toList ++ describeList rest

end

/-- The compact text of a predicate. -/
def describe (p : Predicate) : String := String.ofList p.describeChars

end Predicate

end TagSearch
