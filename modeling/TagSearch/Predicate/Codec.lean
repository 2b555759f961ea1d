import TagSearch.Predicate.Basic
import TagSearch.Criterion.Codec
import TagSearch.Json.Reader
import TagSearch.Json.Printer
import TagSearch.Fault

/-!
# Predicates as JSON

A predicate is written as a record whose `kind` tells the three forms apart.  Every member is
written; on reading all of them but the `kind` may be absent.

Both ways lead down the tree by steps, and `maxSteps` of them are allowed.  Reading takes a step for
each record, and one more where a `Reader` hands over to another; writing takes a step for each
record, each list and each member, so that it comes less far.
-/

namespace TagSearch

namespace Predicate

mutual

/-- A predicate as a record. -/
def toJson : Predicate → Json
  | .overlaps ids mustOverlap =>
    .obj [("kind", .str "overlaps"), ("ids", ids.toJson), ("must_overlap", .bool mustOverlap)]
  | .all children => .obj [("kind", .str "and"), ("children", .arr (listToJson children))]
  | .any children => .obj [("kind", .str "or"), ("children", .arr (listToJson children))]

/-- Children as records. -/
def listToJson : List Predicate → List Json
  | [] => []
  | p :: rest => toJson p :: listToJson rest

end

/-- The most steps down a tree. -/
def maxSteps : Nat := 255

mutual

/-- The steps that writing takes at most below the place of a record: to the record, to a list in it,
and to what the list holds. -/
def writeSteps : Predicate → Nat
  | .overlaps ids _ => if ids.isEmpty then 2 else 3
  | .all children | .any children => listWriteSteps children + 2

/-- The steps of the children that take the most. -/
def listWriteSteps : List Predicate → Nat
  | [] => 0
  | p :: rest => max (writeSteps p) (listWriteSteps rest)

end

/-- Whether a predicate can be written as text.  The members of the outermost record are written
where they stand, so it takes a single step before its children. -/
def isWritable : Predicate → Bool
  | .overlaps .. => true
  | .all children | .any children => 1 + listWriteSteps children ≤ maxSteps

/-- Who reads a record. -/
inductive Reader
  /-- The reader of all kinds, which leaves what is below a node to one of the other two. -/
  | root
  /-- The reader of disjunctions, which leaves conjunctions to the reader of those. -/
  | disjunctions
  /-- The reader of conjunctions, which reads everything below them. -/
  | conjunctions
  deriving DecidableEq, Repr

/-- The steps that a reader takes to a record of a kind, and who reads the children. -/
def Reader.enter : Reader → (kind : String) → Nat × Reader
  | .conjunctions, _ => (1, .conjunctions)
  | .disjunctions, kind => if kind = "and" then (2, .conjunctions) else (1, .disjunctions)
  | .root, kind =>
    if kind = "and" then (2, .conjunctions) else if kind = "or" then (2, .disjunctions) else (1, .root)

/-- The three kinds, in the order messages name them. -/
def kinds : List String := ["overlaps", "and", "or"]

/-- The members of an overlap. -/
def overlapFields (members : Json.Members) : Checked Predicate :=
  overlaps <$> .defaulted "ids" .empty IdSet.decode members
    <*> .defaulted "must_overlap" true .boolean members

mutual

/-- A record of any kind, after so many steps. -/
def decodeAt (reader : Reader) (steps : Nat) : Json → Checked Predicate
  | .obj members =>
    match tagOf kinds members with
    | .error cause => .fail cause
    | .ok kind =>
      let (more, below) := reader.enter kind
      .under (.name kind) <|
        if maxSteps < steps + more then .fail .tooDeep
        else if kind = "overlaps" then overlapFields members
        else .map (if kind = "and" then all else any) (decodeChildren below (steps + more) members)
  | _ => .fail .notTagged

/-- The member `children`, which may be absent. -/
def decodeChildren (reader : Reader) (steps : Nat) : Json.Members → Checked (List Predicate)
  | [] => .accepted []
  | (name, value) :: rest =>
    if name = "children" then .under (.name "children") (decodeTuple reader steps value)
    else decodeChildren reader steps rest

/-- The value of `children`. -/
def decodeTuple (reader : Reader) (steps : Nat) : Json → Checked (List Predicate)
  | .arr items => decodeEach reader steps 0 items
  | _ => .fail .notTuple

/-- Children from a position on. -/
def decodeEach (reader : Reader) (steps position : Nat) : List Json → Checked (List Predicate)
  | [] => .accepted []
  | v :: rest =>
    .ap (.map List.cons (.under (.position position) (decodeAt reader steps v)))
      (decodeEach reader steps (position + 1) rest)

end

/-- A record of any kind. -/
def decode : Json → Checked Predicate := decodeAt .root 0

/-- A record that may only be an overlap. -/
def decodeOverlaps : Json → Checked Predicate :=
  .record "Overlaps" fun members => (fun _ p => p) <$> ownKind "overlaps" members <*> overlapFields members

/-- A record that may only be a conjunction. -/
def decodeAll : Json → Checked Predicate :=
  .record "And" fun members =>
    (fun _ ps => all ps) <$> ownKind "and" members <*> decodeChildren .conjunctions 1 members

/-- A record that may only be a disjunction. -/
def decodeAny : Json → Checked Predicate :=
  .record "Or" fun members =>
    (fun _ ps => any ps) <$> ownKind "or" members <*> decodeChildren .disjunctions 1 members

/-- The name under which faults of a predicate are reported. -/
def subject : String := "tagged-union[Overlaps,And,Or]"

/-- The ids in a predicate, in the order they are written in. -/
def numbers (p : Predicate) : List Int := p.toJson.numbers

/-- The compact text of a predicate, unless an id in it is too long. -/
def describeText (p : Predicate) : Except Fault String := ifFitting p.numbers p.describe

/-- The text of a predicate's record. -/
def toText (p : Predicate) : String := p.toJson.compact

/-- The text of a predicate's record, unless it is too deep. -/
def write (p : Predicate) : Except Fault String :=
  if p.isWritable then .ok p.toText else .error .tooDeepToWrite

/-- The predicate that a text denotes. -/
def ofText (text : String) : Except Rejection Predicate :=
  (Checked.ofText decode text).conclude subject .text

end Predicate

end TagSearch
