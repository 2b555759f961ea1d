import TagSearch.Points.Render
import TagSearch.Store.Query

/-!
# A store of points

Items can be kept as the points of a remote collection.  An item becomes a point with a payload of
three fields and a vector that stands for nothing; a payload becomes an item again where it fits.
The remote side is a `PointService`, to which the store connects when it first needs it.
-/

namespace TagSearch

/-- The id of a point. -/
inductive PointId
  | number (n : Nat)
  | uuid (u : Uuid)
  deriving DecidableEq, Repr

/-- A point of a collection. -/
structure Point where
  id : PointId
  vector : List Binary64
  payload : Payload

/-- Where the remote side is, and how long it may take. -/
structure Connection where
  host : String
  port : Int
  timeout : Binary64
  deriving DecidableEq, Repr

/-- What the remote side can do. -/
structure PointService (m : Type → Type) where
  connect : Connection → m Unit
  /-- The number of points that a condition accepts. -/
  count : (collection : String) → Option Condition → m Int
  /-- The payloads of the points that a condition accepts, from an offset on. -/
  query : (collection : String) → Option Condition → (offset limit : Int) → m (List Payload)
  collections : m (List String)
  create : (collection : String) → (vectorSize : Nat) → m Unit
  delete : (collection : String) → m Unit
  upsert : (collection : String) → List Point → m Unit

/-- A text as it is encoded. -/
def Text.encodable (t : Text) : Except Fault String :=
  match t.encodingFault? with
  | none => .ok t.opening
  | some f => .error (.unencodable f)

/-- A string is encodable. -/
@[simp] theorem Text.encodable_ofString (s : String) : (Text.ofString s).encodable = .ok s := by
  rw [encodable, Text.encodingFault?_ofString]
  rfl

/-- A whole number that is not negative is the id of its point; all other ids become UUIDs of their
text, which has to be written and to have an encoding. -/
def ItemId.pointId (itemNamespace : Uuid) : ItemId → Except Fault PointId
  | .number n =>
    if 0 ≤ n then .ok (.number n.toNat)
    else ifFitting [n] (.uuid (itemNamespace.ofName (String.ofList (intText n))))
  | .text t => t.encodable.map fun s => .uuid (itemNamespace.ofName s)

/-- The vector of every point. -/
def placeholderVector : List Binary64 := [.zero false]

/-- The payload of an item.  When two fields have one name, the later one counts. -/
def Item.payload (s : Settings) (item : Item) : Payload :=
  Json.setMember s.tagField (.ints item.tags)
    (Json.setMember s.titleField (.str item.title) [("item_id", item.id.toJson)])

/-- The point of an item. -/
def Item.point (s : Settings) (item : Item) : Except Fault Point :=
  (item.id.pointId s.itemNamespace).map fun id =>
    { id, vector := placeholderVector, payload := item.payload s }

/-- The item in a payload; fields that are absent count as empty. -/
def Item.ofPayload (s : Settings) (payload : Payload) : Except Rejection Item :=
  let value (field : String) (absent : Json) : Json := (Json.lookup field payload).getD absent
  Item.ofJson (.obj [("item_id", value "item_id" (.str "")),
    ("title", value s.titleField (.str "")), ("tag_ids", value s.tagField (.arr []))])

/-- The items in payloads, up to the first that does not fit. -/
def Item.listOfPayloads (s : Settings) : List Payload → Except Rejection (List Item)
  | [] => .ok []
  | p :: rest =>
    match Item.ofPayload s p with
    | .error r => .error r
    | .ok item => (listOfPayloads s rest).map (item :: ·)

namespace PointStore

variable {m : Type → Type} [Monad m]

/-- Whether the store has connected. -/
abbrev Connected := Bool

/-- Connects, unless that has been done. -/
def connect (s : Settings) (service : PointService m) : StateT Connected m Unit := do
  if !(← get) then
    service.connect ⟨s.host, s.port, s.timeout⟩
    set true

/-- A page of the points that a condition accepts, as items. -/
def page (total : Int) (s : Settings) (payloads : List Payload) : Except Fault ItemPage := do
  let items ← (Item.listOfPayloads s payloads).mapError .rejected
  (ItemPage.checkTotal total items).mapError .rejected

/-- Finds items by whatever stands in place of a predicate. -/
def findOperand (s : Settings) (service : PointService m) (operand : Operand)
    (title : Option Text) (offset limit : Int) : StateT Connected m (Except Fault ItemPage) := do
  connect s service
  match queryConditionOperand s operand title with
  | .error f => return .error f
  | .ok condition =>
    let total ← service.count s.collection condition
    let payloads ← service.query s.collection condition offset limit
    return page total s payloads

/-- Finds items. -/
def find (s : Settings) (service : PointService m) (q : Query) :
    StateT Connected m (Except Fault ItemPage) :=
  findOperand s service ((q.predicate.map Operand.tree).getD (.other .null)) q.title q.offset q.limit

/-- Makes the collection if it does not exist. -/
def ensure (s : Settings) (service : PointService m) : StateT Connected m Ensured := do
  connect s service
  if (← service.collections).contains s.collection then return ⟨s.collection, false⟩
  service.create s.collection placeholderVector.length
  return ⟨s.collection, true⟩

/-- Deletes the collection. -/
def clear (s : Settings) (service : PointService m) : StateT Connected m Unit := do
  connect s service
  service.delete s.collection

/-- Puts in the points of items.  Nothing is sent when there are none, or when one of them cannot be
made. -/
def upsert (s : Settings) (service : PointService m) (items : List Item) :
    StateT Connected m (Except Fault Nat) := do
  match items.mapM (·.point s) with
  | .error f => return .error f
  | .ok points =>
    if !points.isEmpty then
      connect s service
      service.upsert s.collection points
    return .ok points.length

/-- The collection of the settings as a store. -/
def store (s : Settings) (service : PointService m) : ItemStore (StateT Connected m) where
  find := find s service
  ensure := ensure s service
  clear := clear s service
  upsert := upsert s service

end PointStore

end TagSearch
