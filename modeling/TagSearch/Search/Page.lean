import TagSearch.Fault
import TagSearch.Schema.Scalar

/-!
# Page summaries

The answer to a search summarises its page by the number of pages in all.  That number is the
ceiling of a floating-point quotient, so it is exact only as long as the quotient is.
-/

namespace TagSearch

/-- What an answer says about its page. -/
structure PageInfo where
  currentPage : Int
  pageSize : Int
  totalItems : Int
  totalPages : Int
  deriving DecidableEq, Repr

namespace PageInfo

/-- A page summary as a record. -/
def toJson (p : PageInfo) : Json :=
  .obj [("current_page", .int p.currentPage), ("page_size", .int p.pageSize),
    ("total_items", .int p.totalItems), ("total_pages", .int p.totalPages)]

/-- The members of a page summary: pages and page sizes start at one, counts at zero. -/
def fields (members : Json.Members) : Checked PageInfo :=
  PageInfo.mk <$> .required "current_page" (.integerFrom 1) members
    <*> .required "page_size" (.integerFrom 1) members
    <*> .required "total_items" (.integerFrom 0) members
    <*> .required "total_pages" (.integerFrom 0) members

/-- A page summary from a record. -/
def decode : Json → Checked PageInfo := .record "PageInfo" fields

end PageInfo

/-- The number of pages: the quotient as a floating-point number, rounded up. -/
def pageCount (totalItems size : Int) : Except Fault Int :=
  if size = 0 then .error .zeroPageSize
  else
    let negative := decide (totalItems < 0) != decide (size < 0)
    match (Binary64.ofRatio negative totalItems.natAbs size.natAbs).ceil? with
    | some n => .ok n
    | none => .error .pageCountOverflow

/-- The summary of a page, whose numbers have to keep their bounds. -/
def PageInfo.build (page size totalItems : Int) : Except Fault PageInfo := do
  let totalPages ← pageCount totalItems size
  let raw : PageInfo := ⟨page, size, totalItems, totalPages⟩
  ((decode raw.toJson).conclude "PageInfo" .data).mapError .rejected

end TagSearch
