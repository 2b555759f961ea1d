import TagSearch.Schema.Checked
import TagSearch.Json.Display

/-!
# Records told apart by their kind

Several record types share the member `kind`, whose text tells them apart.  `tagOf` reads it where
any of them may stand, and `ownKind` checks it where one of them is wanted.
-/

namespace TagSearch

/-- A value as messages show it, but a string of characters as it stands, and one that cannot be shown by
its kind. -/
def shownPlain : Json → String
  | .str t => t.shown
  | v => if v.isShowable then v.display else "<unprintable " ++ v.kindName ++ " object>"

/-- Which of the kinds an object's `kind` names. -/
def tagOf (kinds : List String) (members : Json.Members) : Except Cause String :=
  match Json.lookup "kind" members with
  | none => .error .noTag
  | some v =>
    match kinds.find? v.isText with
    | some kind => .ok kind
    | none => .error (.unknownTag (shownPlain v) kinds)

/-- The check of a record's own `kind`, which may be absent. -/
def ownKind (kind : String) (members : Json.Members) : Checked Unit :=
  match Json.lookup "kind" members with
  | none => .accepted ()
  | some v => if v.isText kind then .accepted () else .under (.name "kind") (.fail (.wrongTag kind))

end TagSearch
