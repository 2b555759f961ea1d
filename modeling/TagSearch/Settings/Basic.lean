import TagSearch.Schema.Scalar
import TagSearch.Search.Event
import TagSearch.Search.Service
import TagSearch.Text.Quoted
import TagSearch.Uuid

/-!
# Settings

The settings of the search service, and how they are read from named values.  A name that is not a
setting is an issue of its own, reported behind those of the settings.
-/

namespace TagSearch

/-- Which kind of store executes predicates. -/
inductive Backend
  /-- The points of a remote collection. -/
  | points
  /-- A catalog in memory. -/
  | memory
  deriving DecidableEq, Repr

/-- The name of a backend. -/
def Backend.name : Backend → String
  | .points => "qdrant"
  | .memory => "memory"

/-- The backends, in the order messages name them. -/
def Backend.list : List Backend := [.points, .memory]

/-- The settings of the search service. -/
structure Settings where
  backend : Backend := .points
  host : String := "localhost"
  port : Int := 6333
  collection : String := "items"
  /-- The items file that a memory store starts with; an empty path stands for none. -/
  itemsFile : Option String := none
  /-- The payload field with an item's tags. -/
  tagField : String := "tags_ids"
  /-- The payload field with an item's title. -/
  titleField : String := "title"
  /-- The namespace of the point ids that are made from item ids. -/
  itemNamespace : Uuid := ⟨0x5f1c9a527a4e4c1b9a572f3d8e6b0c11⟩
  defaultPageSize : Int := 10
  maxPageSize : Int := 100
  /-- The time limit of a request in seconds. -/
  timeout : Binary64 := .ofInt 30
  logLevel : Severity := .info
  deriving DecidableEq, Repr

namespace Settings

/-- The names of the settings. -/
def names : List String :=
  ["store_backend", "qdrant_host", "qdrant_port", "qdrant_collection_name", "memory_items_file",
    "tag_field", "title_field", "item_id_namespace", "default_page_size", "max_page_size",
    "request_timeout_seconds", "log_level"]

/-- Whether a text is the name of a setting. -/
def isName (t : Text) : Bool := names.any fun name => t = name

/-- A backend by its name. -/
def decodeBackend (v : Json) : Checked Backend :=
  match Backend.list.find? (v.isText ·.name) with
  | some b => .accepted b
  | none => .fail (.notOneOf (Backend.list.map Backend.name))

/-- A port, whose range is checked after it was read. -/
def decodePort (v : Json) : Checked Int :=
  .ofCause do
    let port ← Scalar.integer v
    if 1 ≤ port && port ≤ 65535 then .ok port else .error (.portOutOfRange port)

/-- A UUID in any of its notations. -/
def decodeUuid : Json → Checked Uuid
  | .str t =>
    match t.toString?.bind Uuid.ofText? with
    | some u => .accepted u
    | none => .fail .unreadableUuid
  | _ => .fail .notUuid

/-- A time limit, which is more than nothing. -/
def decodeTimeout (v : Json) : Checked Binary64 :=
  .ofCause do
    let x ← Scalar.number v
    if x.isPositive then .ok x else .error (.notAbove 0)

/-- A character in capitals, as far as the names of severities need it: the letters of ASCII and
the dotless i. -/
def capital (c : Char) : Char := if c = 'ı' then 'I' else c.toUpper

/-- A severity by its name in letters of either case. -/
def decodeLevel (v : Json) : Checked Severity :=
  .ofCause do
    let s ← Scalar.string v
    match Severity.list.find? (·.name.toList = s.toList.map capital) with
    | some level => .ok level
    | none => .error (.unknownLevel (quoted s))

/-- The settings among named values. -/
def known (members : Json.Members) : Checked Settings :=
  Settings.mk <$> .defaulted "store_backend" .points decodeBackend members
    <*> .defaulted "qdrant_host" "localhost" .string members
    <*> .defaulted "qdrant_port" 6333 decodePort members
    <*> .defaulted "qdrant_collection_name" "items" .string members
    <*> .defaulted "memory_items_file" none (.nullable .string) members
    <*> .defaulted "tag_field" "tags_ids" .string members
    <*> .defaulted "title_field" "title" .string members
    <*> .defaulted "item_id_namespace" (itemNamespace {}) decodeUuid members
    <*> .defaulted "default_page_size" 10 (.integerFrom 1) members
    <*> .defaulted "max_page_size" 100 (.integerBetween 1 1000) members
    <*> .defaulted "request_timeout_seconds" (timeout {}) decodeTimeout members
    <*> .defaulted "log_level" .info decodeLevel members

/-- The issues of the names that are no settings. -/
def unknownNames (members : Json.Members) : Checked Unit :=
  match members.filter fun m => !isName m.1 with
  | [] => .accepted ()
  | extra => .refused (extra.map fun m => ⟨[.name m.1.shown], .unknownName⟩)

/-- Settings from named values. -/
def ofMembers (members : Json.Members) : Except Rejection Settings :=
  ((fun s _ => s) <$> known members <*> unknownNames members).conclude "RuntimeSettings" .data

/-- Settings as a record. -/
def toJson (s : Settings) : Json :=
  .obj [("store_backend", .str s.backend.name), ("qdrant_host", .str s.host),
    ("qdrant_port", .int s.port), ("qdrant_collection_name", .str s.collection),
    ("memory_items_file", .ofOption (s.itemsFile.map .str)), ("tag_field", .str s.tagField),
    ("title_field", .str s.titleField), ("item_id_namespace", .str s.itemNamespace.toText),
    ("default_page_size", .int s.defaultPageSize), ("max_page_size", .int s.maxPageSize),
    ("request_timeout_seconds", .float s.timeout), ("log_level", .str s.logLevel.name)]

/-- The page sizes that the settings ask for. -/
def limits (s : Settings) : PageLimits where
  default := s.defaultPageSize
  max := s.maxPageSize

end Settings

end TagSearch
