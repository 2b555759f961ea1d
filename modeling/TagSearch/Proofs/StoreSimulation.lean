import Mathlib.Data.List.Perm.Basic
import TagSearch.Proofs.ConditionMeaning
import TagSearch.Proofs.ItemPayload
import TagSearch.Proofs.PointCollection
import TagSearch.Store.Catalog

/-!
# Both stores find the same

A catalog keeps items in memory and a point store keeps them in a remote collection.  Changed by the
same operations they stay related: `Mirrors` says that the points of the collection are those of the
catalog's items, in whatever order.  The relation holds of two empty stores, one item put into both
keeps it (`Mirrors.put`), and so do a batch, an operation and a run of operations.

Related stores find the same items (`Mirrors.find`), and `stores_find_alike` is what follows for a
run: nothing on the way fails, both report one total for every query without a title, and a query for
everything gets the same items from both, in an order that may differ.
-/

namespace TagSearch

/-- What changes a store: a batch of items put in, or everything removed. -/
inductive StoreOp
  | upsert (items : List Item)
  | reset

namespace StoreOp

/-- The ids of the items that are put in. -/
def ids : StoreOp → List ItemId
  | .upsert items => items.map Item.id
  | .reset => []

variable {m : Type → Type} [Monad m]

/-- Carries out an operation; a store that was cleared is made sure of again.  The answer is how many
items were put in, or why none were. -/
def perform (store : ItemStore m) : StoreOp → m (Except Fault Nat)
  | .upsert items => store.upsert items
  | .reset => do
    store.clear
    let _ ← store.ensure
    return .ok 0

/-- Carries out operations in order. -/
def performAll (store : ItemStore m) : List StoreOp → m (List (Except Fault Nat))
  | [] => return []
  | op :: rest => do
    let answer ← perform store op
    let answers ← performAll store rest
    return answer :: answers

end StoreOp

/-- Every one of the ids has a point, and no two have the same. -/
structure PointsApart (itemNamespace : Uuid) (ids : List ItemId) : Prop where
  defined : ∀ id ∈ ids, ∃ p, id.pointId itemNamespace = .ok p
  apart : ∀ a ∈ ids, ∀ b ∈ ids, a.pointId itemNamespace = b.pointId itemNamespace → a = b

/-- The id of an item's point, for an item that has one. -/
def Item.pointKey (s : Settings) (item : Item) : PointId :=
  match item.id.pointId s.itemNamespace with
  | .ok p => p
  | .error _ => .number 0

/-- The point of an item, for an item that has one. -/
def Item.knownPoint (s : Settings) (item : Item) : Point where
  id := item.pointKey s
  vector := placeholderVector
  payload := item.payload s

/-- What a collection keeps of an item. -/
def Item.entry (s : Settings) (item : Item) : PointEntry := ⟨item.pointKey s, item.payload s⟩

section

variable {s : Settings}

/-- An item whose id has a point has it as its key. -/
theorem pointId_eq_of_defined {item : Item} (h : ∃ p, item.id.pointId s.itemNamespace = .ok p) :
    item.id.pointId s.itemNamespace = .ok (item.pointKey s) := by
  obtain ⟨p, hp⟩ := h
  rw [Item.pointKey, hp]

/-- Items whose ids have points have points themselves. -/
theorem mapM_point_of_defined {items : List Item}
    (h : ∀ item ∈ items, ∃ p, item.id.pointId s.itemNamespace = .ok p) :
    items.mapM (·.point s) = .ok (items.map (Item.knownPoint s)) := by
  induction items with
  | nil => rfl
  | cons item rest ih =>
      have hpoint : item.point s = .ok (item.knownPoint s) := by
        rw [Item.point, pointId_eq_of_defined (h item List.mem_cons_self)]
        rfl
      have hrest := ih fun other hother => h other (List.mem_cons_of_mem item hother)
      rw [List.mapM_cons, hpoint, hrest]
      rfl

variable {ids : List ItemId} (hids : PointsApart s.itemNamespace ids)

include hids

/-- The key of an item with one of the ids is the point of its id. -/
theorem pointId_eq_pointKey {item : Item} (hid : item.id ∈ ids) :
    item.id.pointId s.itemNamespace = .ok (item.pointKey s) :=
  pointId_eq_of_defined (hids.defined _ hid)

/-- Items have one point exactly when they have one id. -/
theorem pointKey_eq_iff {item other : Item} (hid : item.id ∈ ids) (hother : other.id ∈ ids) :
    item.pointKey s = other.pointKey s ↔ item.id = other.id := by
  constructor
  · intro hkey
    apply hids.apart _ hid _ hother
    rw [pointId_eq_pointKey hids hid, pointId_eq_pointKey hids hother, hkey]
  · intro heq
    rw [Item.pointKey, Item.pointKey, heq]

/-- Items with such ids have points themselves. -/
theorem mapM_point {items : List Item} (hitems : ∀ item ∈ items, item.id ∈ ids) :
    items.mapM (·.point s) = .ok (items.map (Item.knownPoint s)) :=
  mapM_point_of_defined fun item hitem => hids.defined _ (hitems item hitem)

/-- Putting an item into a catalog does to the points what setting its payload does, order aside: the
catalog replaces at the old place, the map forgets the old point and adds the new one. -/
theorem map_entry_putIn {item : Item} (hid : item.id ∈ ids) {items : List Item}
    (hitems : ∀ other ∈ items, other.id ∈ ids) :
    ((Catalog.putIn item items).map (Item.entry s)).Perm
      (List.kinsert (item.pointKey s) (item.payload s) (items.map (Item.entry s))) := by
  induction items with
  | nil => exact List.Perm.refl _
  | cons old rest ih =>
      have hkey := pointKey_eq_iff hids hid (hitems old List.mem_cons_self)
      rw [List.kinsert_def, List.map_cons]
      by_cases heq : old.id = item.id
      · rw [Catalog.putIn, if_pos heq, List.map_cons, List.kerase_cons_eq (hkey.mpr heq.symm)]
        exact List.Perm.refl _
      · have hne : item.pointKey s ≠ (old.entry s).1 := by
          intro h
          exact heq (hkey.mp h).symm
        rw [Catalog.putIn, if_neg heq, List.map_cons, List.kerase_cons_ne hne]
        have hrest := ih fun other hother => hitems other (List.mem_cons_of_mem old hother)
        rw [List.kinsert_def] at hrest
        exact (hrest.cons _).trans (List.Perm.swap _ _ _)

end

/-- A collection keeps the points of a catalog's items, and these have ids among the given ones. -/
structure Mirrors (s : Settings) (ids : List ItemId) (c : Catalog) (points : PointMap) : Prop where
  known : ∀ item ∈ c.items, item.id ∈ ids
  entries : points.entries.Perm (c.items.map (Item.entry s))

namespace Mirrors

variable {s : Settings} {ids : List ItemId} {c : Catalog} {points : PointMap}

/-- A collection without points mirrors the empty catalog. -/
theorem empty : Mirrors s ids Catalog.empty ∅ where
  known := by
    intro item hitem
    cases hitem
  entries := List.Perm.refl _

/-- One item put into both keeps the relation. -/
theorem put (hids : PointsApart s.itemNamespace ids) (h : Mirrors s ids c points) {item : Item}
    (hid : item.id ∈ ids) :
    Mirrors s ids (c.put item) (points.insert (item.pointKey s) (item.payload s)) where
  known := by
    intro other hother
    rcases Catalog.mem_putIn hother with rfl | hold
    · exact hid
    · exact h.known other hold
  entries := by
    have hset : (points.insert (item.pointKey s) (item.payload s)).entries.Perm
        (List.kinsert (item.pointKey s) (item.payload s) (c.items.map (Item.entry s))) :=
      h.entries.kinsert points.nodupKeys
    exact hset.trans (map_entry_putIn hids hid h.known).symm

/-- So does a batch, by its items in order. -/
theorem upsert (hids : PointsApart s.itemNamespace ids) {items : List Item}
    (hitems : ∀ item ∈ items, item.id ∈ ids) (h : Mirrors s ids c points) :
    Mirrors s ids (c.upsert items) (points.upsert (items.map (Item.knownPoint s))) := by
  induction items generalizing c points with
  | nil => exact h
  | cons item rest ih =>
      have hput := h.put hids (hitems item List.mem_cons_self)
      exact ih (fun other hother => hitems other (List.mem_cons_of_mem item hother)) hput

end Mirrors

/-- A query that both stores read alike: it has no title, or an empty one, and in its predicate every
disjunction has a child. -/
structure Query.Plain (q : Query) : Prop where
  title : q.title.getD "" = ""
  branches : ∀ p, q.predicate = some p → p.NoBareAny

namespace Query.Plain

variable {q : Query} (hq : q.Plain) (s : Settings)

include hq

/-- A plain query asks nothing of titles. -/
theorem titleMatches (title : Text) : titleMatches q.title title = true := by
  have htitle := hq.title
  cases h : q.title with
  | none => rfl
  | some t =>
      rw [h] at htitle
      obtain rfl : t = "" := htitle
      rfl

/-- Its condition is that of the predicate alone. -/
theorem queryCondition_eq : queryCondition s q.predicate q.title =
    q.predicate.map fun p => .group [(.must, [p.condition s.tagField])] := by
  have htitle := hq.title
  cases h : q.title with
  | none => cases q.predicate <;> rfl
  | some t =>
      rw [h] at htitle
      obtain rfl : t = "" := htitle
      cases q.predicate <;> rfl

/-- The condition of the query accepts the payloads of the items that the query asks for. -/
theorem accepts_payload (item : Item) :
    (queryCondition s q.predicate q.title).all (·.accepts (item.payload s)) =
      item.satisfies q.predicate q.title := by
  rw [hq.queryCondition_eq, Item.satisfies, hq.titleMatches, Bool.and_true]
  cases h : q.predicate with
  | none => rfl
  | some p =>
      have hagree : (p.condition s.tagField).accepts (item.payload s) = p.holds item.tags := by
        rw [Predicate.accepts_condition_of_noBareAny (hq.branches p h), Item.idsAt_payload]
      simp [Condition.accepts, Condition.acceptsParts, Condition.acceptsAll, hagree]

end Query.Plain

namespace Mirrors

variable {s : Settings} {ids : List ItemId} {c : Catalog} {points : PointMap} {q : Query}

/-- The points that the condition of a query accepts are those of the matching items. -/
theorem accepted (h : Mirrors s ids c points) (hq : q.Plain) :
    (points.accepted (queryCondition s q.predicate q.title)).Perm
      ((c.matching q.predicate q.title).map (Item.entry s)) := by
  have hfilter := h.entries.filter fun entry =>
    (queryCondition s q.predicate q.title).all (·.accepts entry.2)
  rw [List.filter_map] at hfilter
  have hsame : c.items.filter ((fun entry : PointEntry =>
      (queryCondition s q.predicate q.title).all (·.accepts entry.2)) ∘ Item.entry s) =
      c.matching q.predicate q.title := by
    apply List.filter_congr
    intro item _
    exact hq.accepts_payload s item
  rw [hsame] at hfilter
  exact hfilter

/-- **Related stores find the same.**  The answers of the collection make a page, its total is that of
the catalog's page, and where both are asked for everything the items are those of that page in some
order. -/
theorem find (h : Mirrors s ids c points) (hnames : s.FieldsApart) (listing : Listing)
    (hq : q.Plain) :
    ∃ found, PointStore.pageFor s listing points q = .ok found ∧
      found.total = (c.find q).total ∧
      (q.offset = 0 → (c.find q).total ≤ q.limit → found.items.Perm (c.find q).items) := by
  have haccepted := h.accepted hq
  have hcount := haccepted.length_eq
  rw [List.length_map] at hcount
  -- what is listed are the entries of the matching items, in the order of the listing
  have hlisted := (listing.perm _).trans haccepted
  obtain ⟨items, hitems, hperm⟩ := (congrFun₂ (List.eq_map_comp_perm (Item.entry s)) _ _).mpr hlisted
  have hpart : listing.part q.offset q.limit
      (points.accepted (queryCondition s q.predicate q.title)) =
      ((items.drop q.offset.toNat).take q.limit.toNat).map (Item.payload s) := by
    rw [Listing.part, hitems, ← List.map_drop, ← List.map_take, List.map_map]
    rfl
  refine ⟨⟨(c.matching q.predicate q.title).length, (items.drop q.offset.toNat).take q.limit.toNat⟩,
    ?_, rfl, ?_⟩
  · rw [PointStore.pageFor, hpart, hcount]
    exact Item.page_map hnames _ _
  · intro hoffset hlimit
    have htotal : ((c.matching q.predicate q.title).length : Int) ≤ q.limit := hlimit
    have hlength := hperm.length_eq
    rw [Catalog.items_find_eq_matching hoffset hlimit, hoffset]
    show ((items.drop 0).take q.limit.toNat).Perm _
    rw [List.drop_zero, List.take_of_length_le (by omega)]
    exact hperm

end Mirrors

/-- The remote side has the collection, and it mirrors the catalog. -/
def MirroredIn (s : Settings) (ids : List ItemId) (c : Catalog) (remote : Remote) : Prop :=
  ∃ points, remote.lookup s.collection = some points ∧ Mirrors s ids c points

section

variable {s : Settings} {ids : List ItemId} {c : Catalog} {remote : Remote} (listing : Listing)
  (b : PointStore.Connected)

/-- **One operation keeps the relation** and gets the same answer from both stores. -/
theorem MirroredIn.perform (hids : PointsApart s.itemNamespace ids) {op : StoreOp}
    (hop : ∀ id ∈ op.ids, id ∈ ids) (h : MirroredIn s ids c remote) :
    ∃ c' b' remote',
      ((op.perform Catalog.store).run c).run = (.ok op.ids.length, c') ∧
      ((op.perform (PointStore.store s (Remote.service listing))).run b).run remote =
        some ((.ok op.ids.length, b'), remote') ∧
      MirroredIn s ids c' remote' := by
  obtain ⟨points, hlookup, hmirrors⟩ := h
  cases op with
  | upsert items =>
      have hitems : ∀ item ∈ items, item.id ∈ ids := by
        intro item hitem
        exact hop item.id (List.mem_map_of_mem hitem)
      obtain ⟨b', remote', hrun, hlookup'⟩ :=
        PointStore.run_upsert listing b hlookup (mapM_point hids hitems)
      refine ⟨c.upsert items, b', remote', ?_, ?_, _, hlookup', hmirrors.upsert hids hitems⟩
      · simp [StoreOp.perform, StoreOp.ids, Catalog.store]
      · simpa [StoreOp.perform, StoreOp.ids, PointStore.store] using hrun
  | reset =>
      have hgone : s.collection ∉ (remote.erase s.collection).keys := by
        rw [AList.keys_erase]
        exact remote.keys_nodup.not_mem_erase
      refine ⟨Catalog.empty, true, (remote.erase s.collection).insert s.collection ∅, rfl, ?_,
        ∅, AList.lookup_insert _, Mirrors.empty⟩
      simp [StoreOp.perform, StoreOp.ids, PointStore.store, PointStore.run_clear,
        PointStore.run_ensure listing true hgone]

/-- A run of operations keeps it, by the operations in order. -/
theorem MirroredIn.performAll (hids : PointsApart s.itemNamespace ids) {ops : List StoreOp}
    (hops : ∀ id ∈ ops.flatMap StoreOp.ids, id ∈ ids) (h : MirroredIn s ids c remote) :
    ∃ c' b' remote',
      ((StoreOp.performAll Catalog.store ops).run c).run =
        (ops.map fun op => .ok op.ids.length, c') ∧
      ((StoreOp.performAll (PointStore.store s (Remote.service listing)) ops).run b).run remote =
        some ((ops.map fun op => .ok op.ids.length, b'), remote') ∧
      MirroredIn s ids c' remote' := by
  induction ops generalizing c remote b with
  | nil => exact ⟨c, b, remote, rfl, rfl, h⟩
  | cons op rest ih =>
      rw [List.flatMap_cons] at hops
      have hop : ∀ id ∈ op.ids, id ∈ ids := by
        intro id hid
        exact hops id (List.mem_append_left _ hid)
      have hrest : ∀ id ∈ rest.flatMap StoreOp.ids, id ∈ ids := by
        intro id hid
        exact hops id (List.mem_append_right _ hid)
      obtain ⟨c₁, b₁, remote₁, hmine₁, htheirs₁, hkept₁⟩ :=
        h.perform listing b hids hop
      obtain ⟨c₂, b₂, remote₂, hmine₂, htheirs₂, hkept₂⟩ := ih b₁ hrest hkept₁
      refine ⟨c₂, b₂, remote₂, ?_, ?_, hkept₂⟩
      · simp [StoreOp.performAll, hmine₁, hmine₂]
      · simp [StoreOp.performAll, htheirs₁, htheirs₂]

end

/-- **Both stores find alike after any run.**  The stores start empty, the ids of the run have points
of their own and the payload fields have different names.  Then every operation succeeds in both with
the same answer.  Afterwards every query without a title whose disjunctions all have children, as
those of compiled criteria do, finds the same total in both; and from the start and with room for all
of them it finds the same items, in some order. -/
theorem stores_find_alike (s : Settings) (hnames : s.FieldsApart) (listing : Listing)
    (ops : List StoreOp) (hids : PointsApart s.itemNamespace (ops.flatMap StoreOp.ids))
    (remote : Remote) (hempty : remote.lookup s.collection = some ∅) (b : PointStore.Connected) :
    (∀ criteria, (compile criteria).NoBareAny) ∧
    ∃ c b' remote',
      ((StoreOp.performAll Catalog.store ops).run Catalog.empty).run =
        (ops.map fun op => .ok op.ids.length, c) ∧
      ((StoreOp.performAll (PointStore.store s (Remote.service listing)) ops).run b).run remote =
        some ((ops.map fun op => .ok op.ids.length, b'), remote') ∧
      ∀ q : Query, q.Plain →
        ∃ mine theirs : ItemPage,
          ((Catalog.store.find q).run c).run = (.ok mine, c) ∧
          (((PointStore.store s (Remote.service listing)).find q).run b').run remote' =
            some ((.ok theirs, true), remote') ∧
          theirs.total = mine.total ∧
          (q.offset = 0 → mine.total ≤ q.limit → theirs.items.Perm mine.items) := by
  refine ⟨Predicate.noBareAny_compile, ?_⟩
  have hstart : MirroredIn s (ops.flatMap StoreOp.ids) Catalog.empty remote :=
    ⟨∅, hempty, Mirrors.empty⟩
  obtain ⟨c, b', remote', hmine, htheirs, points, hlookup, hmirrors⟩ :=
    hstart.performAll listing b hids fun _ hid => hid
  refine ⟨c, b', remote', hmine, htheirs, ?_⟩
  intro q hq
  obtain ⟨theirs, hpage, htotal, hitems⟩ := hmirrors.find hnames listing hq
  have hfind := PointStore.run_find (b := b') listing hlookup q
  rw [hpage] at hfind
  exact ⟨c.find q, theirs, rfl, hfind, htotal, hitems⟩

/-- A batch that repeats an id after a reset, with the number 5 and the text "5" as ids: the repeated
item counts once, by its later tags. -/
theorem stores_find_alike_after_reset :
    let s : Settings := {}
    let ops : List StoreOp :=
      [.upsert [{ id := .number 9, tags := [2] }], .reset,
        .upsert [{ id := .number 5, tags := [1] }, { id := .text "5", tags := [2, 7] },
          { id := .number 5, tags := [2] }]]
    let start : Remote := AList.singleton s.collection ∅
    let store := PointStore.store s (Remote.service .byId)
    s.FieldsApart ∧ PointsApart s.itemNamespace (ops.flatMap StoreOp.ids) ∧
      start.lookup s.collection = some ∅ ∧
      ∃ b remote found,
        ((StoreOp.performAll store ops).run false).run start =
          some (([.ok 1, .ok 0, .ok 3], b), remote) ∧
        ((store.find ⟨some (.overlaps (.ofList [2]) true), none, 0, 10⟩).run b).run remote =
          some ((.ok found, true), remote) ∧
        found.total = 2 ∧
        found.items.Perm [{ id := .number 5, tags := [2] }, { id := .text "5", tags := [2, 7] }] := by
  intro s ops start store
  have hnames : s.FieldsApart := ⟨by decide, by decide, by decide⟩
  have hids : PointsApart s.itemNamespace (ops.flatMap StoreOp.ids) := by
    constructor
    · intro id hid
      obtain rfl | rfl | rfl | rfl :
          id = .number 9 ∨ id = .number 5 ∨ id = .text "5" ∨ id = .number 5 := by
        simpa [ops, StoreOp.ids] using hid
      all_goals exact ⟨_, rfl⟩
    · simp [ops, StoreOp.ids, ItemId.pointId, Except.map]
  have hempty : start.lookup s.collection = some ∅ := rfl
  obtain ⟨-, c, b, remote, hmine, htheirs, hfind⟩ :=
    stores_find_alike s hnames .byId ops hids start hempty false
  obtain ⟨mine, theirs, hpage, hpage', htotal, hitems⟩ :=
    hfind ⟨some (.overlaps (.ofList [2]) true), none, 0, 10⟩ ⟨rfl, by rintro p ⟨⟩; trivial⟩
  obtain rfl : c = ((StoreOp.performAll Catalog.store ops).run Catalog.empty).run.2 := by
    rw [hmine]
  obtain rfl : mine = Catalog.find _ ⟨some (.overlaps (.ofList [2]) true), none, 0, 10⟩ := by
    cases hpage
    rfl
  refine ⟨hnames, hids, hempty, b, remote, theirs, htheirs, hpage', htotal.trans ?_, ?_⟩
  · decide
  · refine (hitems rfl (by decide)).trans ?_
    decide

end TagSearch
