import TagSearch.Criterion.Unchecked
import TagSearch.Predicate.Compile
import TagSearch.Predicate.Evaluate
import TagSearch.Json.Display

/-!
# Unchecked values around predicates

Criteria, tags and predicates can all be handed over as bare JSON values.  Here is what becomes of
them: `compileJson` compiles any value that its elements allow, `tagsOfJson` takes any value with
elements as a set of tags, and an `Operand` is a predicate or something else in its place.
-/

namespace TagSearch

namespace Predicate

/-- The most nodes inside each other that are compared. -/
def maxCompared : Nat := 248

mutual

/-- Whether two predicates are equal, found out by looking at no more than so many nodes inside each
other. -/
def equalWithin (room : Nat) : (p q : Predicate) → Option Bool
  | .overlaps s a, .overlaps t b => if room = 0 then none else some (s = t && a = b)
  | .all ps, .all qs | .any ps, .any qs => if room = 0 then none else listEqualWithin (room - 1) ps qs
  | _, _ => some false

/-- Whether children are equal one by one, looking no further than the first that are not. -/
def listEqualWithin (room : Nat) : (ps qs : List Predicate) → Option Bool
  | [], [] => some true
  | p :: ps, q :: qs =>
    match equalWithin room p q with
    | some true => listEqualWithin room ps qs
    | answer => answer
  | _, _ => some false

end

end Predicate

/-- The predicate of a value in place of a criterion. -/
def Predicate.ofJsonCriterion (v : Json) : Except Fault Predicate :=
  (Clause.ofJson v).map Clause.predicate

/-- The predicate of a value in place of a list of criteria. -/
def compileJson (v : Json) : Except Fault Predicate := do
  let criteria ← v.elements
  return .all (← criteria.mapM Predicate.ofJsonCriterion)

/-- A value as the element of a set of tags: numbers count by value, and nothing else can equal an
id. -/
def tagOfJson : Json → Except Fault (Option Int)
  | .arr _ => .error (.notHashable "list")
  | .obj _ => .error (.notHashable "dict")
  | v => .ok v.exactInt?

/-- The tags of a value in place of an item's tags. -/
def tagsOfJson (v : Json) : Except Fault (List Int) := do
  return (← (← v.elements).mapM tagOfJson).filterMap fun tag => tag

/-- What stands where a predicate is expected. -/
inductive Operand
  | tree (p : Predicate)
  | other (v : Json)

namespace Operand

/-- The predicate, if it is one. -/
def predicate : Operand → Except Fault Predicate
  | .tree p => .ok p
  | .other v => .error (if v.isShowable then .unsupportedNode v.display else .numberTooLong)

/-- The predicate, if it is one; null stands for none at all. -/
def predicate? : Operand → Except Fault (Option Predicate)
  | .other .null => .ok none
  | operand => operand.predicate.map some

/-- Whether the operand holds of a value in place of an item's tags.  The tags are looked at
first. -/
def holds (operand : Operand) (tags : Json) : Except Fault Bool := do
  let tags ← tagsOfJson tags
  return (← operand.predicate).holds tags

/-- Whether two operands are equal. -/
def sameAs : Operand → Operand → Except Fault Bool
  | .tree p, .tree q =>
    match p.equalWithin Predicate.maxCompared q with
    | some same => .ok same
    | none => .error .tooDeepToCompare
  | .other v, .other w => .ok (v.sameAs w)
  | _, _ => .ok false

end Operand

end TagSearch
