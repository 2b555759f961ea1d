import TagSearch.Fault
import TagSearch.Item
import TagSearch.Json.Printer
import TagSearch.Store.Folder
import TagSearch.Text.Lines

/-!
# Items files

An items file is a JSON list of items in UTF-8.  Reading it stops at the first thing that is wrong:
the encoding, the JSON, the kind of the value, or the first item that does not fit.
-/

namespace TagSearch

/-- The JSON value in a file. -/
def Json.ofBytes (bytes : List UInt8) : Except Fault Json :=
  match decodeUtf8 bytes with
  | .error f => .error (.undecodable f)
  | .ok text => (Json.readChars (unifyLineEnds text)).mapError .unreadableJson

/-- The items in a list of records, up to the first that does not fit. -/
def Item.listOfJson : List Json → Except Fault (List Item)
  | [] => .ok []
  | v :: rest =>
    match Item.ofJson v with
    | .error r => .error (.rejected r)
    | .ok item => (listOfJson rest).map (item :: ·)

/-- The items in the bytes of a file. -/
def itemsOfBytes (path : String) (bytes : List UInt8) : Except Fault (List Item) :=
  match Json.ofBytes bytes with
  | .error f => .error f
  | .ok (.arr items) => Item.listOfJson items
  | .ok v => .error (.notItems path v.kindName)

/-- The items at a path. -/
def itemsOfEntry (path : String) : Entry → Except Fault (List Item)
  | .file bytes => itemsOfBytes path bytes
  | .directory => .error (.isDirectory path)
  | .absent => .error (.fileNotFound path)
  | .behindFile => .error (.notDirectory path)
  | .tooLong => .error (.nameTooLong path)
  | .impossible => .error .nullInPath

/-- The text of an items file. -/
def itemsText (items : List Item) : String :=
  "[" ++ ",".intercalate (items.map fun item => item.toJson.compact) ++ "]"

/-- The bytes of an items file.  The items are written one by one, so the first that has no encoding
stops it. -/
def itemsFile (items : List Item) : Except Fault (List UInt8) :=
  match items.findSome? fun item => item.toJson.encodingFault? with
  | none => .ok (itemsText items).toUTF8.toList
  | some f => .error (.unwritable f)

end TagSearch
