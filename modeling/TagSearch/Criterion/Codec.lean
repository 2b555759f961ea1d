import TagSearch.Criterion.Clause
import TagSearch.Schema.Scalar
import TagSearch.Schema.Tagged

/-!
# Criteria, requirements and clauses as JSON

Criteria that come with a request are read strictly: an entry is a whole number or a list of whole
numbers.  An entry that is neither is reported once for each of the two shapes.
-/

namespace TagSearch

namespace IdSet

/-- A list of whole numbers as the set of its items. -/
def decode : Json → Checked IdSet
  | .arr items => .map ofList (.each .integer 0 items)
  | _ => .fail .notSet

/-- The members in increasing order. -/
def toJson (s : IdSet) : Json := .ints s.toList

end IdSet

namespace Criterion

/-- The step to an entry read as a single id. -/
def asTag : Step := .name "int"

/-- The step to an entry read as a group. -/
def asGroup : Step := .name "list[int]"

/-- An entry of a list of criteria. -/
def decode : Json → Checked Criterion
  | .int n => .accepted (.tag n)
  | .arr items =>
    match Checked.each .strictInteger 0 items with
    | .accepted ids => .accepted (.group ids)
    | .refused issues =>
      .refused (⟨[asTag], .notInteger⟩ :: issues.map (Issue.under asGroup))
  | _ => .refused [⟨[asTag], .notInteger⟩, ⟨[asGroup], .notList⟩]

/-- A criterion as it is written in a request. -/
def toJson : Criterion → Json
  | .tag n => .int n
  | .group ids => .ints ids

/-- A list of criteria. -/
def decodeAll : Json → Checked (List Criterion) := Checked.list decode

/-- A list of criteria as it is written in a request. -/
def listToJson (cs : List Criterion) : Json := .arr (cs.map toJson)

/-- A criterion is read from what it is written as, and from nothing else. -/
theorem decode_eq_accepted_iff (v : Json) (c : Criterion) :
    decode v = .accepted c ↔ v = c.toJson := by
  cases v with
  | int n => cases c <;> simp [decode, toJson, Json.ints]
  | arr items =>
      cases c with
      | tag n =>
          refine iff_of_false ?_ nofun
          rw [decode]
          split <;> exact nofun
      | group ids =>
          rw [toJson, Json.ints, Json.arr.injEq, decode,
            ← Checked.each_eq_accepted_iff (i := 0) Checked.strictInteger_eq_accepted_iff]
          split
          · rename_i found hfound
            rw [hfound, Checked.accepted.injEq, Checked.accepted.injEq, Criterion.group.injEq]
          · rename_i hfound
            exact iff_of_false nofun (hfound ▸ nofun)
  | _ =>
      refine iff_of_false nofun ?_
      cases c <;> exact nofun

/-- The values that are accepted as criteria are those that criteria are written as. -/
theorem decodeAll_eq_accepted_iff {v : Json} {cs : List Criterion} :
    decodeAll v = .accepted cs ↔ v = listToJson cs := by
  cases v with
  | arr items =>
      rw [decodeAll, Checked.list, Checked.each_eq_accepted_iff decode_eq_accepted_iff, listToJson,
        Json.arr.injEq]
  | _ => exact iff_of_false nofun nofun

end Criterion

namespace Requirement

/-- The kind of a requirement. -/
def kind : Requirement → String
  | .present _ => "include"
  | .absent _ => "exclude"

/-- The tag that is asked about. -/
def id : Requirement → Nat
  | .present id | .absent id => id

/-- A requirement as a record. -/
def toJson (r : Requirement) : Json := .obj [("kind", .str r.kind), ("tag_id", .int r.id)]

/-- The id of a tag to be present. -/
def presentId (members : Json.Members) : Checked Requirement :=
  .map (fun n => .present n.toNat) (.required "tag_id" (.integerFrom 0) members)

/-- The id of a tag to be absent, which is never zero. -/
def absentId (members : Json.Members) : Checked Requirement :=
  .map (fun n => .absent n.toNat)
    (.required "tag_id" (fun v => .ofCause (Scalar.integer v >>= Scalar.moreThan 0)) members)

/-- A record that may only ask for presence. -/
def decodePresent : Json → Checked Requirement :=
  .record "Include" fun members => (fun _ r => r) <$> ownKind "include" members <*> presentId members

/-- A record that may only ask for absence. -/
def decodeAbsent : Json → Checked Requirement :=
  .record "Exclude" fun members => (fun _ r => r) <$> ownKind "exclude" members <*> absentId members

/-- A record of either kind. -/
def decode : Json → Checked Requirement
  | .obj members =>
    match tagOf ["include", "exclude"] members with
    | .error cause => .fail cause
    | .ok kind =>
      .under (.name kind) (if kind = "include" then presentId members else absentId members)
  | _ => .fail .notTagged

end Requirement

namespace Clause

/-- A clause as a record. -/
def toJson (c : Clause) : Json :=
  .obj [("must_have", c.mustHave.toJson), ("must_not", c.mustNot.toJson)]

/-- A clause from a record; a set that is absent is empty. -/
def decode : Json → Checked Clause :=
  .record "ClassifiedCriterion" fun members =>
    Clause.mk <$> .defaulted "must_have" .empty IdSet.decode members
      <*> .defaulted "must_not" .empty IdSet.decode members

end Clause

end TagSearch
