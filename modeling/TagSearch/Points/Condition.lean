import TagSearch.Item
import TagSearch.Predicate.Basic
import TagSearch.Text.Occurrence

/-!
# Conditions on points

A point store filters points by conditions on their payloads: a payload field has one of some ids,
or contains a text, or a group of conditions is met.  Such a group has parts that demand all of
their conditions, at least one, or none; a part without conditions demands nothing.
`Condition.accepts` is that reading.
-/

namespace TagSearch

/-- What a point carries: values under names. -/
abbrev Payload := Json.Members

/-- What a part of a group asks of its conditions. -/
inductive Demand
  /-- All of them are met. -/
  | must
  /-- At least one is met, if there is one. -/
  | should
  /-- None of them is met. -/
  | mustNot
  deriving DecidableEq, Repr

/-- The name of a part. -/
def Demand.name : Demand → String
  | .must => "must"
  | .should => "should"
  | .mustNot => "must_not"

/-- A condition on the payload of a point. -/
inductive Condition
  /-- The field has one of the ids. -/
  | hasAny (field : String) (ids : List Int)
  /-- The field contains the text. -/
  | hasText (field : String) (text : Text)
  /-- The parts of a group are all met. -/
  | group (parts : List (Demand × List Condition))
  deriving Repr

namespace Condition

mutual

/-- A condition as a record. -/
def toJson : Condition → Json
  | .hasAny field ids => .obj [("key", .str field), ("match", .obj [("any", .ints ids)])]
  | .hasText field text => .obj [("key", .str field), ("match", .obj [("text", .str text)])]
  | .group parts => .obj (partsToJson parts)

/-- The parts of a group as members. -/
def partsToJson : List (Demand × List Condition) → Json.Members
  | [] => []
  | (demand, conditions) :: rest =>
    (demand.name, .arr (listToJson conditions)) :: partsToJson rest

/-- Conditions as records. -/
def listToJson : List Condition → List Json
  | [] => []
  | c :: rest => toJson c :: listToJson rest

end

/-- The whole numbers in a payload field: the items of a list. -/
def idsAt (payload : Payload) (field : String) : List Int :=
  match Json.lookup field payload with
  | some (.arr items) =>
    items.filterMap fun v =>
      match v with
      | .int n => some n
      | _ => none
  | _ => []

/-- The text in a payload field. -/
def textAt (payload : Payload) (field : String) : Option Text :=
  match Json.lookup field payload with
  | some (.str t) => some t
  | _ => none

mutual

/-- Whether a condition accepts a point with the given payload. -/
def accepts (payload : Payload) : Condition → Bool
  | .hasAny field ids => (idsAt payload field).any ids.contains
  | .hasText field text => (textAt payload field).any (·.contains text)
  | .group parts => acceptsParts payload parts

/-- Whether every part of a group is met. -/
def acceptsParts (payload : Payload) : List (Demand × List Condition) → Bool
  | [] => true
  | (.must, conditions) :: rest => acceptsAll payload conditions && acceptsParts payload rest
  | (.mustNot, conditions) :: rest => !acceptsAny payload conditions && acceptsParts payload rest
  | (.should, conditions) :: rest =>
    (conditions.isEmpty || acceptsAny payload conditions) && acceptsParts payload rest

/-- Whether all conditions accept the point. -/
def acceptsAll (payload : Payload) : List Condition → Bool
  | [] => true
  | c :: rest => accepts payload c && acceptsAll payload rest

/-- Whether one of the conditions accepts the point. -/
def acceptsAny (payload : Payload) : List Condition → Bool
  | [] => false
  | c :: rest => accepts payload c || acceptsAny payload rest

end

end Condition

end TagSearch
