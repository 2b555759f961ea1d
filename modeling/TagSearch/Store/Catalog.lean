import TagSearch.Predicate.Unchecked
import TagSearch.Store.Query
import TagSearch.Text.Lowercase
import TagSearch.Text.Occurrence

/-!
# Catalogs

A catalog holds items in memory, in the order in which their ids were first put in.  Putting in an
item whose id is there replaces the old item at its place.
-/

namespace TagSearch

/-- Whether a title contains the wanted one, letter case aside.  No title, or an empty one, is
contained in every title. -/
def titleMatches (wanted : Option Text) (title : Text) : Bool :=
  match wanted with
  | none => true
  | some w => w.isEmpty || title.lower.contains w.lower

/-- Whether an item satisfies a predicate, if there is one, and has a title that matches. -/
def Item.satisfies (predicate : Option Predicate) (title : Option Text) (item : Item) : Bool :=
  predicate.all (·.holds item.tags) && titleMatches title item.title

/-- Items with distinct ids, in the order in which the ids came. -/
structure Catalog where
  items : List Item
  distinct : (items.map Item.id).Nodup

namespace Catalog

/-- Puts an item into a list: at the place of the one with its id, or at the end. -/
def putIn (item : Item) : List Item → List Item
  | [] => [item]
  | old :: rest => if old.id = item.id then item :: rest else old :: putIn item rest

/-- The ids after an item was put in: a new one comes last. -/
theorem map_id_putIn (item : Item) (items : List Item) :
    (putIn item items).map Item.id =
      if item.id ∈ items.map Item.id then items.map Item.id
      else items.map Item.id ++ [item.id] := by
  induction items with
  | nil => simp [putIn]
  | cons old rest ih =>
    by_cases h : old.id = item.id
    · simp [putIn, h]
    · have h' : item.id ≠ old.id := fun e => h e.symm
      simp only [putIn, h, if_false, List.map_cons, ih, List.mem_cons, h', false_or]
      split <;> simp

/-- What is in a list after an item was put in is that item or was there before. -/
theorem mem_putIn {item other : Item} {items : List Item} (h : other ∈ putIn item items) :
    other = item ∨ other ∈ items := by
  induction items with
  | nil => exact Or.inl (List.mem_singleton.mp h)
  | cons old rest ih =>
      rw [putIn] at h
      split at h
      · rcases List.mem_cons.mp h with heq | hrest
        · exact Or.inl heq
        · exact Or.inr (List.mem_cons_of_mem old hrest)
      · rcases List.mem_cons.mp h with rfl | hrest
        · exact Or.inr List.mem_cons_self
        · exact (ih hrest).imp_right (List.mem_cons_of_mem old)

/-- Ids stay distinct when an item is put in. -/
theorem nodup_putIn {item : Item} {items : List Item} (h : (items.map Item.id).Nodup) :
    ((putIn item items).map Item.id).Nodup := by
  rw [map_id_putIn]
  split
  · exact h
  · rename_i hnew
    rw [List.nodup_append]
    refine ⟨h, by simp, ?_⟩
    intro a ha b hb
    simp only [List.mem_singleton] at hb
    subst hb
    exact fun e => hnew (e ▸ ha)

/-- A catalog without items. -/
def empty : Catalog where
  items := []
  distinct := by simp

/-- The catalog with an item put in. -/
def put (c : Catalog) (item : Item) : Catalog where
  items := putIn item c.items
  distinct := nodup_putIn c.distinct

/-- The catalog with several items put in, in order. -/
def upsert (c : Catalog) (items : List Item) : Catalog := items.foldl put c

/-- The catalog of a list of items. -/
def ofList (items : List Item) : Catalog := empty.upsert items

/-- The items that a filter lets through, in order. -/
def matching (c : Catalog) (predicate : Option Predicate) (title : Option Text) : List Item :=
  c.items.filter (·.satisfies predicate title)

/-- A page of the matching items, and their number. -/
def find (c : Catalog) (q : Query) : ItemPage where
  total := (c.matching q.predicate q.title).length
  items := window q.offset q.limit (c.matching q.predicate q.title)

/-- The same for whatever stands in place of a predicate, which is looked at when there is an item
to try it on. -/
def findOperand (c : Catalog) (operand : Operand) (title : Option Text) (offset limit : Int) :
    Except Fault ItemPage :=
  if c.items.isEmpty then .ok (c.find ⟨none, title, offset, limit⟩)
  else return c.find ⟨← operand.predicate?, title, offset, limit⟩

/-- From the start and with room for all of them, a page has all matching items. -/
theorem items_find_eq_matching {c : Catalog} {q : Query} (hoffset : q.offset = 0)
    (hlimit : (c.find q).total ≤ q.limit) :
    (c.find q).items = c.matching q.predicate q.title := by
  have htotal : ((c.matching q.predicate q.title).length : Int) ≤ q.limit := hlimit
  have hnat : q.limit = (q.limit.toNat : Int) := by omega
  show window q.offset q.limit (c.matching q.predicate q.title) = _
  rw [hoffset, hnat, ← Int.natCast_zero, window_ofNat, List.drop_zero,
    List.take_of_length_le (by omega)]

/-- A catalog is always there. -/
def ensured : Ensured := ⟨"memory", false⟩

end Catalog

/-- A catalog as a store. -/
def Catalog.store : ItemStore (StateM Catalog) where
  find q := do return .ok ((← get).find q)
  ensure := return Catalog.ensured
  clear := set Catalog.empty
  upsert items := do
    modify (·.upsert items)
    return .ok items.length

end TagSearch
