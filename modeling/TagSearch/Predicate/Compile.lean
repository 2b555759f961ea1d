import TagSearch.Criterion.Clause
import TagSearch.Predicate.Basic

/-!
# From criteria to predicates

A list of criteria becomes the conjunction of one predicate per criterion.  A simple clause is a
single overlap; a complex one holds where a required tag is present or no forbidden one is.
-/

namespace TagSearch

/-- The predicate of a clause.  A clause without ids asks for no overlap with nothing, which every
item satisfies. -/
def Clause.predicate (c : Clause) : Predicate :=
  match c.shape with
  | .simple =>
    if c.mustHave.isEmpty then .overlaps c.mustNot false else .overlaps c.mustHave true
  | .complex => .any [.overlaps c.mustHave true, .overlaps c.mustNot false]

/-- The predicate of a criterion. -/
def Criterion.predicate (c : Criterion) : Predicate := c.clause.predicate

/-- The predicate of a list of criteria. -/
def compile (criteria : List Criterion) : Predicate := .all (criteria.map Criterion.predicate)

end TagSearch
