import TagSearch.Json.Basic
import TagSearch.Number.IntText
import TagSearch.Number.Shortest
import TagSearch.Text.Quoted

/-!
# Values inside messages

A message shows a value in a notation of its own: `None`, `True` and `False`, texts in quotes, and
lists and objects with a blank behind every comma and colon.  That notation writes whole numbers with
all their digits, so `Json.isShowable` says whether a value has it.
-/

namespace TagSearch

namespace Json

mutual

/-- A value as messages show it. -/
def display : Json → String
  | .null => "None"
  | .bool b => if b then "True" else "False"
  | .int n => String.ofList (intText n)
  | .float x => x.toText
  | .str t => quoted t
  | .arr items => "[" ++ displayItems items ++ "]"
  | .obj members => "\x7b" ++ displayMembers members ++ "\x7d"

/-- Items set apart by commas. -/
def displayItems : List Json → String
  | [] => ""
  | [item] => display item
  | item :: rest => display item ++ ", " ++ displayItems rest

/-- Members set apart by commas. -/
def displayMembers : Members → String
  | [] => ""
  | [(name, value)] => quoted name ++ ": " ++ display value
  | (name, value) :: rest =>
    quoted name ++ ": " ++ display value ++ ", " ++ displayMembers rest

end

/-- Whether every number in a value can be written. -/
def isShowable (v : Json) : Bool := v.numbers.all fitsText

end Json

end TagSearch
