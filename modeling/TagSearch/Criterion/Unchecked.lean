import TagSearch.Criterion.Codec
import TagSearch.Fault

/-!
# Criteria that nobody has checked

The compiler can be handed any JSON value in place of criteria.  It takes the elements of the value
one by one, a list among them as a group and everything else as a single id, and reads the sign of
whatever has one.
-/

namespace TagSearch

/-- The elements of a value: the items of a list, the code points of a text, the names of an
object. -/
def Json.elements : Json → Except Fault (List Json)
  | .arr items => .ok items
  | .str t => .ok (t.elements.map .str)
  | .obj members => .ok (members.map fun m => .str m.1)
  | v => .error (.notIterable v.kindName)

/-- A value with its sign turned around. -/
def Binary64.neg : Binary64 → Binary64
  | .nan => .nan
  | .infinite s => .infinite !s
  | .finite s m e => .finite (!s) m e

namespace Requirement

/-- A number as the id of a tag to be present. -/
def presentOf (v : Json) : Except Fault Requirement :=
  ((presentId [("tag_id", v)]).conclude "Include" .data).mapError .rejected

/-- A number as the id of a tag to be absent. -/
def absentOf (v : Json) : Except Fault Requirement :=
  ((absentId [("tag_id", v)]).conclude "Exclude" .data).mapError .rejected

/-- What a signed number asks for, whatever kind of number it is; a truth value counts as 0 or 1.
NaN is on neither side of zero and counts as negative. -/
def ofJson : Json → Except Fault Requirement
  | .int n => if 0 ≤ n then presentOf (.int n) else absentOf (.int (-n))
  | .bool b => presentOf (.bool b)
  | .float x => if x = .nan || x.isNegative then absentOf (.float x.neg) else presentOf (.float x)
  | v => .error (.notOrdered v.kindName)

/-- What a value in place of a criterion asks for. -/
def listOfJson : Json → Except Fault (List Requirement)
  | .arr items => items.mapM ofJson
  | v => (ofJson v).map ([·])

end Requirement

/-- The clause of a value in place of a criterion. -/
def Clause.ofJson (v : Json) : Except Fault Clause := (Requirement.listOfJson v).map .ofRequirements

end TagSearch
