import Mathlib.Data.List.AList
import Mathlib.Data.List.Dedup
import TagSearch.Points.Store

/-!
# A remote side that keeps points

`PointService` names the requests of a point store.  Here the remote side is a state that answers
them: its collections are finite maps from the ids of points to their payloads.  Putting in a point
sets the payload under its id, and a condition selects the points it accepts.  In what order the
remote side lists points is left open; a `Listing` is any order that loses none.  A request about a
collection that does not exist fails, and so does making one that does.

The lemmas at the end say what each operation of `PointStore` comes to:
`run_upsert`, `run_clear`, `run_ensure` and `run_find`.
-/

namespace TagSearch

/-- A payload under the id of its point. -/
abbrev PointEntry := Sigma fun _ : PointId => Payload

/-- The points of a collection. -/
abbrev PointMap := AList fun _ : PointId => Payload

/-- The collections of the remote side, under their names. -/
abbrev Remote := AList fun _ : String => PointMap

/-- An order in which points are listed: all of them, each once. -/
structure Listing where
  order : List PointEntry → List PointEntry
  perm : ∀ entries, (order entries).Perm entries

/-- The payloads of the listed points from an offset on, as far as the limit goes. -/
def Listing.part (listing : Listing) (offset limit : Int) (entries : List PointEntry) :
    List Payload :=
  (((listing.order entries).drop offset.toNat).take limit.toNat).map (·.2)

/-- Whether a point stands before another one by their ids: numbers before UUIDs. -/
def PointId.before : PointId → PointId → Bool
  | .number m, .number n => m ≤ n
  | .number _, .uuid _ => true
  | .uuid _, .number _ => false
  | .uuid u, .uuid v => u.value ≤ v.value

/-- Points in the order of their ids. -/
def Listing.byId : Listing where
  order entries := entries.mergeSort fun a b => a.1.before b.1
  perm entries := List.mergeSort_perm entries _

namespace PointMap

/-- Sets the payloads of points, one after the other. -/
def upsert (points : PointMap) (batch : List Point) : PointMap :=
  batch.foldl (fun acc point => acc.insert point.id point.payload) points

/-- The points that a condition accepts; no condition accepts all. -/
def accepted (points : PointMap) (condition : Option Condition) : List PointEntry :=
  points.entries.filter fun entry => condition.all (·.accepts entry.2)

variable {points : PointMap} {batch : List Point}

/-- A point that is not set again is kept. -/
theorem lookup_upsert_of_notMem {p : PointId} (h : p ∉ batch.map Point.id) :
    (points.upsert batch).lookup p = points.lookup p := by
  induction batch generalizing points with
  | nil => rfl
  | cons point rest ih =>
      rw [List.map_cons, List.mem_cons, not_or] at h
      exact (ih h.2).trans (AList.lookup_insert_ne h.1)

/-- Each point of a batch has its payload afterwards, if no later one has its id. -/
theorem lookup_upsert_of_mem (hnodup : (batch.map Point.id).Nodup) {point : Point}
    (hmem : point ∈ batch) : (points.upsert batch).lookup point.id = some point.payload := by
  induction batch generalizing points with
  | nil => cases hmem
  | cons first rest ih =>
      rw [List.map_cons, List.nodup_cons] at hnodup
      rcases List.mem_cons.mp hmem with rfl | hrest
      · exact (lookup_upsert_of_notMem hnodup.1).trans (AList.lookup_insert _)
      · exact ih hnodup.2 hrest

/-- A batch adds the ids of its points. -/
theorem mem_keys_upsert {p : PointId} :
    p ∈ (points.upsert batch).keys ↔ p ∈ points.keys ∨ p ∈ batch.map Point.id := by
  induction batch generalizing points with
  | nil => simp [upsert]
  | cons point rest ih =>
      have hinsert : p ∈ (points.insert point.id point.payload).keys ↔
          p = point.id ∨ p ∈ points.keys := AList.mem_insert points
      rw [List.map_cons, List.mem_cons, ← or_assoc, or_comm (b := p = point.id), ← hinsert]
      exact ih

/-- A batch makes as many points as it has only if none is set twice. -/
theorem length_upsert_empty_iff :
    ((∅ : PointMap).upsert batch).entries.length = batch.length ↔ (batch.map Point.id).Nodup := by
  have hkeys : ((∅ : PointMap).upsert batch).keys.Perm (batch.map Point.id).dedup := by
    refine (List.perm_ext_iff_of_nodup (AList.keys_nodup _) (List.nodup_dedup _)).mpr ?_
    intro p
    rw [mem_keys_upsert, List.mem_dedup]
    exact or_iff_right (List.not_mem_nil)
  have hlength : ((∅ : PointMap).upsert batch).entries.length = (batch.map Point.id).dedup.length := by
    rw [← hkeys.length_eq]
    exact (List.length_map _).symm
  rw [hlength, ← List.length_map (f := Point.id), ← List.dedup_eq_self]
  constructor
  · exact (List.dedup_sublist _).eq_of_length
  · exact congrArg List.length

end PointMap

namespace Remote

/-- The points of a collection. -/
def pointsOf (collection : String) : StateT Remote Option PointMap := do
  match (← get).lookup collection with
  | some points => return points
  | none => failure

/-- The requests, answered by the collections. -/
def service (listing : Listing) : PointService (StateT Remote Option) where
  connect _ := return ()
  count collection condition := do
    return ((← pointsOf collection).accepted condition).length
  query collection condition offset limit := do
    return listing.part offset limit ((← pointsOf collection).accepted condition)
  collections := return (← get).keys
  create collection _ := do
    if collection ∈ (← get).keys then failure
    modify (·.insert collection ∅)
  delete collection := modify (·.erase collection)
  upsert collection batch := do
    let points ← pointsOf collection
    modify (·.insert collection (points.upsert batch))

variable {listing : Listing} {remote : Remote} {points : PointMap} {collection : String}

/-- The points of a collection are those that were found for it. -/
theorem run_pointsOf (hlookup : remote.lookup collection = some points) :
    (pointsOf collection).run remote = some (points, remote) := by
  simp [pointsOf, hlookup]

/-- Connecting changes nothing. -/
@[simp] theorem run_connect (connection : Connection) :
    ((service listing).connect connection).run remote = some ((), remote) := rfl

/-- The count is the number of accepted points. -/
theorem run_count (hlookup : remote.lookup collection = some points)
    (condition : Option Condition) :
    ((service listing).count collection condition).run remote =
      some (((points.accepted condition).length : Int), remote) := by
  simp [service, run_pointsOf hlookup]

/-- A query gives a part of the accepted points. -/
theorem run_query (hlookup : remote.lookup collection = some points)
    (condition : Option Condition) (offset limit : Int) :
    ((service listing).query collection condition offset limit).run remote =
      some (listing.part offset limit (points.accepted condition), remote) := by
  simp [service, run_pointsOf hlookup]

/-- The collections are listed. -/
@[simp] theorem run_collections :
    (service listing).collections.run remote = some (remote.keys, remote) := rfl

/-- A new collection has no points. -/
theorem run_create (hnew : collection ∉ remote.keys) (vectorSize : Nat) :
    ((service listing).create collection vectorSize).run remote =
      some ((), remote.insert collection ∅) := by
  simp [service, hnew]

/-- A collection that is deleted is gone. -/
@[simp] theorem run_delete :
    ((service listing).delete collection).run remote = some ((), remote.erase collection) := rfl

/-- A batch of points replaces those with its ids. -/
theorem run_upsert (hlookup : remote.lookup collection = some points) (batch : List Point) :
    ((service listing).upsert collection batch).run remote =
      some ((), remote.insert collection (points.upsert batch)) := by
  simp [service, run_pointsOf hlookup]

end Remote

namespace PointStore

variable {s : Settings} {listing : Listing} {remote : Remote} {points : PointMap} {b : Connected}

/-- Connecting asks nothing of the collections. -/
@[simp] theorem run_connect :
    ((connect s (Remote.service listing)).run b).run remote = some (((), true), remote) := by
  cases b <;> simp [connect]

variable (listing b)

/-- **Items are put in** as the points that are made of them. -/
theorem run_upsert {items : List Item} {batch : List Point}
    (hlookup : remote.lookup s.collection = some points)
    (hbatch : items.mapM (·.point s) = .ok batch) :
    ∃ b' remote', ((upsert s (Remote.service listing) items).run b).run remote =
        some ((.ok batch.length, b'), remote') ∧
      remote'.lookup s.collection = some (points.upsert batch) := by
  cases batch with
  | nil =>
      refine ⟨b, remote, ?_, hlookup⟩
      simp [upsert, hbatch]
  | cons point rest =>
      refine ⟨true, remote.insert s.collection (points.upsert (point :: rest)), ?_, ?_⟩
      · simp [upsert, hbatch, Remote.run_upsert hlookup]
      · exact AList.lookup_insert remote

/-- **Clearing** deletes the collection. -/
theorem run_clear (remote : Remote) :
    ((clear s (Remote.service listing)).run b).run remote =
      some (((), true), remote.erase s.collection) := by
  simp [clear]

/-- A collection that is missing is made, without points. -/
theorem run_ensure (hnew : s.collection ∉ remote.keys) :
    ((ensure s (Remote.service listing)).run b).run remote =
      some ((⟨s.collection, true⟩, true), remote.insert s.collection ∅) := by
  simp [ensure, hnew, Remote.run_create hnew]

/-- The page that is made of what a collection answers to a query. -/
def pageFor (s : Settings) (listing : Listing) (points : PointMap) (q : Query) :
    Except Fault ItemPage :=
  let found := points.accepted (queryCondition s q.predicate q.title)
  page found.length s (listing.part q.offset q.limit found)

/-- **Finding** gives the page of the accepted points. -/
theorem run_find (hlookup : remote.lookup s.collection = some points) (q : Query) :
    ((find s (Remote.service listing) q).run b).run remote =
      some ((pageFor s listing points q, true), remote) := by
  have hcondition : queryConditionOperand s ((q.predicate.map Operand.tree).getD (.other .null))
      q.title = .ok (queryCondition s q.predicate q.title) := by
    cases q.predicate <;> rfl
  simp [find, findOperand, pageFor, hcondition, Remote.run_count hlookup,
    Remote.run_query hlookup]

end PointStore

end TagSearch
