import TagSearch.IdSet

/-!
# Tag criteria

A criterion is a signed tag id or a group of them.  An id that is not negative requires the tag, a
negative one forbids the tag whose id is its magnitude.  `Criterion.holds` is what a criterion says
about an item's tags, read off the signed ids directly.
-/

namespace TagSearch

/-- A signed tag id, or a group of signed tag ids. -/
inductive Criterion
  | tag (id : Int)
  | group (ids : List Int)
  deriving DecidableEq, Repr

/-- What a signed id asks of an item. -/
inductive Requirement
  /-- The item carries the tag. -/
  | present (id : Nat)
  /-- The item does not carry the tag. -/
  | absent (id : Nat)
  deriving DecidableEq, Repr

/-- The sign of an id decides what it asks for; zero is the id of a tag. -/
def Requirement.ofSigned (id : Int) : Requirement :=
  if 0 ≤ id then .present id.toNat else .absent id.natAbs

namespace Criterion

/-- The signed ids of a criterion, in order. -/
def signedIds : Criterion → List Int
  | .tag id => [id]
  | .group ids => ids

/-- What the signed ids ask for, in order. -/
def requirements (c : Criterion) : List Requirement := c.signedIds.map .ofSigned

/-- Whether a group of signed ids holds of an item's tags: an empty group always; otherwise some
required tag is there or none of the forbidden ones, as far as the group has any. -/
def groupHolds (ids : List Int) (tags : List Int) : Bool :=
  let required := ids.filter (0 ≤ ·)
  let forbidden := ids.filter (· < 0)
  let hasRequired := required.any tags.contains
  let lacksForbidden := forbidden.all fun id => !tags.contains (-id)
  if forbidden.isEmpty then required.isEmpty || hasRequired
  else if required.isEmpty then lacksForbidden
  else hasRequired || lacksForbidden

/-- Whether a criterion holds of an item's tags. -/
def holds (tags : List Int) : Criterion → Bool
  | .tag id => if 0 ≤ id then tags.contains id else !tags.contains (-id)
  | .group ids => groupHolds ids tags

end Criterion

end TagSearch
