import TagSearch.Fault
import TagSearch.Item
import TagSearch.Predicate.Basic

/-!
# Asking a store for items

A store is asked for the items that satisfy a predicate and have a matching title, and answers with
a window of them and their number.
-/

namespace TagSearch

/-- What a store is asked to find. -/
structure Query where
  predicate : Option Predicate
  title : Option Text
  offset : Int
  limit : Int
  deriving Repr

/-- The part of a list between two bounds, the second one `limit` behind the first.  A negative
bound counts from the end, and bounds outside the list are moved to its ends. -/
def window {α : Type} (offset limit : Int) (xs : List α) : List α :=
  let place (bound : Int) : Nat :=
    if bound < 0 then (bound + xs.length).toNat else min bound.toNat xs.length
  (xs.drop (place offset)).take (place (offset + limit) - place offset)

/-- A window with bounds inside the natural numbers is a plain cut. -/
theorem window_ofNat {α : Type} (offset limit : Nat) (xs : List α) :
    window offset limit xs = (xs.drop offset).take limit := by
  have h1 : ¬ ((offset : Int) < 0) := by omega
  have h2 : ¬ ((offset : Int) + limit < 0) := by omega
  simp only [window, h1, h2, if_false]
  by_cases h : xs.length ≤ offset
  · rw [List.drop_eq_nil_of_le (by omega), List.drop_eq_nil_of_le h]; simp
  · rw [show min (offset : Int).toNat xs.length = offset by omega]
    apply List.take_eq_take_iff.mpr
    simp only [List.length_drop]
    omega

/-- Matches on one page, and the number of matches on all pages. -/
structure ItemPage where
  total : Int
  items : List Item
  deriving DecidableEq, Repr

namespace ItemPage

/-- A page as a record. -/
def toJson (p : ItemPage) : Json :=
  .obj [("total", .int p.total), ("items", .arr (p.items.map Item.toJson))]

/-- A page from a record; the items may be absent. -/
def decode : Json → Checked ItemPage :=
  .record "ItemPage" fun members =>
    ItemPage.mk <$> .required "total" (.integerFrom 0) members
      <*> .defaulted "items" [] (.list Item.decode) members

/-- A page of known items, whose total is still to be checked. -/
def checkTotal (total : Int) (items : List Item) : Except Rejection ItemPage :=
  (Checked.map (ItemPage.mk · items) (.required "total" (.integerFrom 0) [("total", .int total)]))
    |>.conclude "ItemPage" .data

/-- A natural number is a total. -/
theorem checkTotal_natCast (total : Nat) (items : List Item) :
    checkTotal total items = .ok ⟨total, items⟩ := by
  have htotal : Checked.required "total" (.integerFrom 0) [("total", .int total)] =
      .accepted (total : Int) :=
    Checked.required_of_lookup rfl (Checked.integerFrom_int (Int.natCast_nonneg total))
  rw [checkTotal, htotal]
  rfl

end ItemPage

/-- The outcome of making sure that a collection exists: its name, and whether it was made. -/
structure Ensured where
  name : String
  created : Bool
  deriving DecidableEq, Repr

/-- The outcome as a record. -/
def Ensured.toJson (e : Ensured) : Json :=
  .obj [("name", .str e.name), ("created", .bool e.created)]

/-- What a store of items can do, in whatever way it does it. -/
structure ItemStore (m : Type → Type) where
  find : Query → m (Except Fault ItemPage)
  ensure : m Ensured
  clear : m Unit
  upsert : List Item → m (Except Fault Nat)

end TagSearch
