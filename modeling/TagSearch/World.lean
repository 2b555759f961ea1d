import TagSearch.Points.Store
import TagSearch.Settings.Load
import TagSearch.Store.Catalog
import TagSearch.Store.ItemsFile

/-!
# The world around a search

Settings decide which store a search runs in.  What a store needs from outside, files and the remote
side of a collection, is a `World`, so that everything here is a function of it.
-/

namespace TagSearch

/-- What a search needs from outside. -/
structure World (m : Type → Type) where
  /-- What stands at a path below the working folder. -/
  entry : String → m Entry
  points : PointService m

/-- The store that settings ask for. -/
inductive OpenStore
  | catalog (c : Catalog)
  | points (s : Settings)

section

variable {m : Type → Type} [Monad m]

/-- Loads the settings. -/
def World.loadSettings (w : World m) (given : Json.Members) (env : Environment) :
    m (Except Fault Settings) := do
  return Settings.load given env (← w.entry ".env")

/-- The items in a file. -/
def World.loadItems (w : World m) (path : String) : m (Except Fault (List Item)) := do
  return itemsOfEntry path (← w.entry path)

/-- Opens the store that settings ask for.  A memory store starts with the items of its file, if
one is named. -/
def World.openStore (w : World m) (s : Settings) : m (Except Fault OpenStore) :=
  match s.backend, s.itemsFile.filter (!·.isEmpty) with
  | .points, _ => return .ok (.points s)
  | .memory, none => return .ok (.catalog .empty)
  | .memory, some path => do
    return (← w.loadItems (normalPath path)).map fun items => .catalog (.ofList items)

/-- Finds items in an open store. -/
def World.find (w : World m) (q : Query) : OpenStore → m (Except Fault ItemPage)
  | .catalog c => return .ok (c.find q)
  | .points s => (PointStore.find s w.points q).run' false

/-- Makes sure that the collection exists. -/
def World.ensure (w : World m) : OpenStore → m Ensured
  | .catalog _ => return Catalog.ensured
  | .points s => (PointStore.ensure s w.points).run' false

/-- Deletes the collection. -/
def World.clear (w : World m) : OpenStore → m Unit
  | .catalog _ => return ()
  | .points s => (PointStore.clear s w.points).run' false

/-- Puts items into the collection. -/
def World.upsert (w : World m) (items : List Item) : OpenStore → m (Except Fault Nat)
  | .catalog _ => return .ok items.length
  | .points s => (PointStore.upsert s w.points items).run' false

/-- Runs a request in an open store. -/
def World.search (w : World m) (s : Settings) (store : OpenStore) (r : SearchRequest) :
    m Searched :=
  TagSearch.search (w.find · store) s.limits r

/-- Loads the settings, opens their store, and runs a request in it. -/
def World.searchFresh (w : World m) (env : Environment) (r : SearchRequest) : m Searched := do
  match ← w.loadSettings [] env with
  | .error f => return ⟨[], .error f⟩
  | .ok s =>
    match ← w.openStore s with
    | .error f => return ⟨[], .error f⟩
    | .ok store => w.search s store r

end

end TagSearch
