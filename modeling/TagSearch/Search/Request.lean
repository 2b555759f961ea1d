import TagSearch.Criterion.Codec
import TagSearch.Predicate.Compile

/-!
# Search requests

A request carries tag criteria, a title or both, and asks for a page.  Criteria that are absent mean
no filter on tags, which is different from an empty list of criteria only in that no predicate is
made.  A page size that was not given is left to the service.
-/

namespace TagSearch

/-- What a request asks of the items. -/
structure SearchCriteria where
  tags : Option (List Criterion) := none
  title : Option Text := none
  deriving DecidableEq, Repr

/-- The page that a request asks for. -/
structure PageRequest where
  page : Int := 1
  size : Option Int := none
  deriving DecidableEq, Repr

/-- A search request. -/
structure SearchRequest where
  data : Option SearchCriteria := none
  metadata : PageRequest := {}
  deriving DecidableEq, Repr

namespace SearchCriteria

/-- Criteria from a record. -/
def decode : Json → Checked SearchCriteria :=
  .record "SearchCriteria" fun members =>
    SearchCriteria.mk <$> .defaulted "tags" none (.nullable Criterion.decodeAll) members
      <*> .defaulted "title" none (.nullable .text) members

/-- Criteria as a record. -/
def toJson (c : SearchCriteria) : Json :=
  .obj [("tags", .ofOption (c.tags.map Criterion.listToJson)),
    ("title", .ofOption (c.title.map Json.str))]

end SearchCriteria

namespace PageRequest

/-- The page size of a request that does not name one. -/
def defaultSize : Int := 10

/-- The page size, whether it was given or not. -/
def effectiveSize (p : PageRequest) : Int := p.size.getD defaultSize

/-- How many items the pages before this one hold. -/
def offset (p : PageRequest) : Int := (p.page - 1) * p.effectiveSize

/-- A page request from a record: pages count from one, sizes go from 1 to 1000. -/
def decode : Json → Checked PageRequest :=
  .record "PageRequest" fun members =>
    PageRequest.mk <$> .defaulted "page" 1 (.integerFrom 1) members
      <*> .optional "size" (.integerBetween 1 1000) members

/-- A page request as a record. -/
def toJson (p : PageRequest) : Json :=
  .obj [("page", .int p.page), ("size", .int p.effectiveSize)]

end PageRequest

namespace SearchRequest

/-- Whether the request carries tag criteria, be it an empty list. -/
def hasTagCriteria (r : SearchRequest) : Bool := (r.data.bind (·.tags)).isSome

/-- The title that is searched for. -/
def title (r : SearchRequest) : Option Text := r.data.bind (·.title)

/-- The predicate on tags, if the request carries criteria. -/
def filter (r : SearchRequest) : Option Predicate := (r.data.bind (·.tags)).map compile

/-- A request from a record. -/
def decode : Json → Checked SearchRequest :=
  .record "SearchRequest" fun members =>
    SearchRequest.mk <$> .defaulted "data" none (.nullable SearchCriteria.decode) members
      <*> .defaulted "metadata" {} PageRequest.decode members

/-- A request as a record. -/
def toJson (r : SearchRequest) : Json :=
  .obj [("data", .ofOption (r.data.map SearchCriteria.toJson)), ("metadata", r.metadata.toJson)]

/-- A request from a record, or why there is none. -/
def ofJson (v : Json) : Except Rejection SearchRequest :=
  (decode v).conclude "SearchRequest" .data

end SearchRequest

end TagSearch
