import TagSearch.Search.Event
import TagSearch.Search.Request
import TagSearch.Search.Response
import TagSearch.Store.Query

/-!
# The search service

A search has three parts: the request becomes a `Query` for the store, the store finds a page, and
the page becomes the response.  The store is any function from queries to pages; what it does in
between is not the service's business.
-/

namespace TagSearch

/-- The page sizes of a service. -/
structure PageLimits where
  /-- The size for requests that name none. -/
  default : Int := 10
  /-- The largest size served. -/
  max : Int := 100
  deriving DecidableEq, Repr

/-- The page size that a request is served with. -/
def PageLimits.size (limits : PageLimits) (r : SearchRequest) : Int :=
  min (r.metadata.size.getD limits.default) limits.max

/-- The query of a request. -/
def SearchRequest.query (r : SearchRequest) (limits : PageLimits) : Query where
  predicate := r.filter
  title := r.title
  offset := (r.metadata.page - 1) * limits.size r
  limit := limits.size r

/-- The number of criteria that a request carries. -/
def SearchRequest.criteriaCount (r : SearchRequest) : Nat :=
  ((r.data.bind (·.tags)).map List.length).getD 0

/-- Whether a title filters anything: an absent or empty one does not. -/
def hasTitle (title : Option Text) : Bool := title.any (!·.isEmpty)

/-- The event before a store is asked. -/
def filterEvent (r : SearchRequest) : Event where
  severity := .debug
  name := "search_filter"
  fields := [("criteria_count", .int r.criteriaCount), ("has_title", .bool (hasTitle r.title))]

/-- The event after a store has answered. -/
def searchEvent (limits : PageLimits) (r : SearchRequest) (found : ItemPage) : Event where
  severity := .info
  name := "search"
  fields := [("page", .int r.metadata.page), ("size", .int (limits.size r)),
    ("total_items", .int found.total)]

/-- The response to a request from what the store has found. -/
def SearchRequest.respond (r : SearchRequest) (limits : PageLimits) (found : ItemPage) :
    Except Fault SearchResponse := do
  let info ← PageInfo.build r.metadata.page (limits.size r) found.total
  return ⟨info, found.items⟩

/-- A search that is over: what was logged, and the answer. -/
structure Searched where
  events : List Event
  answer : Except Fault SearchResponse

/-- Ends a search with what the store has answered. -/
def SearchRequest.finish (r : SearchRequest) (limits : PageLimits) :
    Except Fault ItemPage → Searched
  | .error f => ⟨[filterEvent r], .error f⟩
  | .ok found => ⟨[filterEvent r, searchEvent limits r found], r.respond limits found⟩

/-- A search in a store. -/
def search {m : Type → Type} [Monad m] (find : Query → m (Except Fault ItemPage))
    (limits : PageLimits) (r : SearchRequest) : m Searched := do
  return r.finish limits (← find (r.query limits))

end TagSearch
