import TagSearch.Criterion.Basic

/-!
# Clauses

A clause is a criterion with its ids split by what they ask for.  It is simple when it asks for one
thing only, and complex when it both requires and forbids tags.
-/

namespace TagSearch

/-- The ids of a criterion without signs, split by polarity. -/
structure Clause where
  mustHave : IdSet
  mustNot : IdSet
  deriving DecidableEq, Repr

/-- The shape of the predicate that a clause becomes. -/
inductive Clause.Shape
  /-- At most one of the two sets has members. -/
  | simple
  /-- Both have members. -/
  | complex
  deriving DecidableEq, Repr

/-- The shape's name. -/
def Clause.Shape.name : Clause.Shape → String
  | .simple => "simple"
  | .complex => "complex"

/-- The shape of a clause. -/
def Clause.shape (c : Clause) : Clause.Shape :=
  if c.mustHave.isEmpty || c.mustNot.isEmpty then .simple else .complex

/-- The id that has to be there, if that is what is asked for. -/
def Requirement.present? : Requirement → Option Int
  | .present id => some id
  | .absent _ => none

/-- The id that must not be there, if that is what is asked for. -/
def Requirement.absent? : Requirement → Option Int
  | .present _ => none
  | .absent id => some id

/-- Requirements sorted into a clause. -/
def Clause.ofRequirements (rs : List Requirement) : Clause where
  mustHave := .ofList (rs.filterMap (·.present?))
  mustNot := .ofList (rs.filterMap (·.absent?))

/-- The clause of a criterion. -/
def Criterion.clause (c : Criterion) : Clause := .ofRequirements c.requirements

end TagSearch
