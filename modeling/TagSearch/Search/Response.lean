import TagSearch.Fault
import TagSearch.Item
import TagSearch.Search.Page
import TagSearch.Json.Printer

/-!
# Search responses

A response is written as JSON with its characters as they are, so it cannot be written when an id or a
title in it has no encoding.
-/

namespace TagSearch

/-- The answer to a search: a page of items and its summary. -/
structure SearchResponse where
  metadata : PageInfo
  data : List Item
  deriving DecidableEq, Repr

namespace SearchResponse

/-- A response as a record. -/
def toJson (r : SearchResponse) : Json :=
  .obj [("metadata", r.metadata.toJson), ("data", .arr (r.data.map Item.toJson))]

/-- A response from a record; the items may be absent. -/
def decode : Json → Checked SearchResponse :=
  .record "SearchResponse" fun members =>
    SearchResponse.mk <$> .required "metadata" PageInfo.decode members
      <*> .defaulted "data" [] (.list Item.decode) members

/-- The text of a response, one member a line. -/
def toText (r : SearchResponse) : String := r.toJson.indented .unicode

/-- The text of a response, if every text in it has an encoding. -/
def write (r : SearchResponse) : Except Fault String :=
  match r.toJson.encodingFault? with
  | none => .ok r.toText
  | some f => .error (.unwritable f)

/-- The response that a text denotes. -/
def ofText (text : String) : Except Rejection SearchResponse :=
  (Checked.ofText decode text).conclude "SearchResponse" .text

end SearchResponse

end TagSearch
