import Mathlib.Data.List.Nodup
import Mathlib.Logic.Relation
import TagSearch.Proofs.CatalogHistory

/-!
# Paging while items are put in

A reader walks through the items of a catalog that a filter lets through, one page after the other, and
stops at the first page that is not full.  Between two of its calls a writer may put in any batches;
the one promise is that an item that is replaced keeps its answer to the filter
(`PageWalk.KeepsAnswers`).  `PageWalk.Step` is a step of either party.

New ids come last and old ones keep their places, so a batch can only add to the end of the list of
matching ids (`matchingIds_prefix_upsert`).  The pages read so far therefore stay the beginning of
that list, whatever happens between two calls: `PageWalk.OnTrack` says so, a step of either party
keeps it (`OnTrack.step`) and a run does (`OnTrack.run`).  A page that is not full is the end of the
list, which gives `paging_sees_each_once`.
-/

namespace TagSearch

/-- What a reader goes through: the items that a filter lets through, in pages of a size. -/
structure PageWalk where
  predicate : Option Predicate
  title : Option Text
  size : Nat

/-- A walk under way: the catalog as it is, how many pages were read, what was on them, and whether
the reader has stopped. -/
structure PageWalk.State where
  catalog : Catalog
  read : Nat
  seen : List Item
  stopped : Bool

namespace PageWalk

variable (w : PageWalk)

/-- What the reader asks for after so many pages. -/
def query (read : Nat) : Query := ⟨w.predicate, w.title, (read : Int) * w.size, w.size⟩

/-- Whether the filter lets an item through. -/
def lets (item : Item) : Bool := item.satisfies w.predicate w.title

/-- The ids of the items that the filter lets through, in order. -/
def matchingIds (c : Catalog) : List ItemId := (c.matching w.predicate w.title).map Item.id

/-- A batch replaces items only by such as have the same answer to the filter.  New ids are free. -/
def KeepsAnswers (c : Catalog) (batch : List Item) : Prop :=
  ∀ old ∈ c.items, ∀ new ∈ (c.upsert batch).items, new.id = old.id → w.lets new = w.lets old

/-- The start of a walk. -/
def State.start (c : Catalog) : State := ⟨c, 0, [], false⟩

/-- A step of the writer or of the reader, as long as the reader goes on. -/
inductive Step : State → State → Prop
  /-- The writer puts in a batch. -/
  | write {c : Catalog} {read : Nat} {seen : List Item} (batch : List Item)
      (hkeeps : w.KeepsAnswers c batch) :
      Step ⟨c, read, seen, false⟩ ⟨c.upsert batch, read, seen, false⟩
  /-- The reader finds a full page and goes on. -/
  | turn {c : Catalog} {read : Nat} {seen : List Item} {page : ItemPage}
      (hfind : (Catalog.store.find (w.query read)).run c = (.ok page, c))
      (hfull : ¬ page.items.length < w.size) :
      Step ⟨c, read, seen, false⟩ ⟨c, read + 1, seen ++ page.items, false⟩
  /-- The reader finds a page that is not full and stops. -/
  | stop {c : Catalog} {read : Nat} {seen : List Item} {page : ItemPage}
      (hfind : (Catalog.store.find (w.query read)).run c = (.ok page, c))
      (hshort : page.items.length < w.size) :
      Step ⟨c, read, seen, false⟩ ⟨c, read + 1, seen ++ page.items, true⟩

section

variable {w} {c : Catalog}

/-- Lists with the same ids, whose items under one id have the same answer, let the same ids
through. -/
theorem map_id_filter_eq {f : Item → Bool} {xs ys : List Item}
    (hids : xs.map Item.id = ys.map Item.id)
    (hanswers : ∀ x ∈ xs, ∀ y ∈ ys, y.id = x.id → f y = f x) :
    (xs.filter f).map Item.id = (ys.filter f).map Item.id := by
  induction xs generalizing ys with
  | nil =>
      obtain rfl := List.map_eq_nil_iff.mp hids.symm
      rfl
  | cons x xs ih =>
      cases ys with
      | nil => cases hids
      | cons y ys =>
          obtain ⟨hid, hids⟩ := List.cons.inj hids
          have hhead : f y = f x :=
            hanswers x List.mem_cons_self y List.mem_cons_self hid.symm
          have htail := ih hids fun x hx y hy =>
            hanswers x (List.mem_cons_of_mem _ hx) y (List.mem_cons_of_mem _ hy)
          rw [List.filter_cons, List.filter_cons, hhead]
          split
          · rw [List.map_cons, List.map_cons, hid, htail]
          · exact htail

/-- It is enough that every item of the batch whose id is there has the answer of the item under it. -/
theorem keepsAnswers_of_batch {batch : List Item}
    (h : ∀ old ∈ c.items, ∀ new ∈ batch, new.id = old.id → w.lets new = w.lets old) :
    w.KeepsAnswers c batch := by
  intro old hold new hnew hid
  rcases Catalog.mem_of_mem_upsert hnew with hbatch | hmem
  · exact h old hold new hbatch hid
  · rw [Catalog.eq_of_id_eq hmem hold hid]

/-- **A batch that keeps the answers only adds at the end** of the list of matching ids. -/
theorem matchingIds_prefix_upsert {batch : List Item} (h : w.KeepsAnswers c batch) :
    w.matchingIds c <+: w.matchingIds (c.upsert batch) := by
  obtain ⟨added, hadded⟩ := Catalog.ids_prefix_upsert (c := c) batch
  -- the new list, cut where the old ids end
  have hold : ((c.upsert batch).items.take c.items.length).map Item.id = c.items.map Item.id := by
    have hlength : c.items.length = c.ids.length := (List.length_map Item.id).symm
    rw [List.map_take, hlength]
    show (c.upsert batch).ids.take c.ids.length = c.ids
    rw [← hadded, List.take_left]
  have hkept : w.matchingIds c =
      (((c.upsert batch).items.take c.items.length).filter w.lets).map Item.id := by
    apply map_id_filter_eq hold.symm
    intro old hmem new hnew hid
    exact h old hmem new (List.mem_of_mem_take hnew) hid
  have hcut := List.take_prefix c.items.length (c.upsert batch).items
  rw [hkept]
  exact (hcut.filter w.lets).map Item.id

/-- No id matches twice. -/
theorem nodup_matchingIds : (w.matchingIds c).Nodup :=
  (List.filter_sublist.map Item.id).nodup c.distinct

/-- The ids on the page that is found after so many pages. -/
theorem map_id_of_find {read : Nat} {page : ItemPage}
    (hfind : (Catalog.store.find (w.query read)).run c = (.ok page, c)) :
    page.items.map Item.id = ((w.matchingIds c).drop (read * w.size)).take w.size := by
  have hpage : Except.ok (c.find (w.query read)) = Except.ok page := (Prod.mk.inj hfind).1
  obtain rfl := Except.ok.inj hpage
  have hoffset : (w.query read).offset = ((read * w.size : Nat) : Int) := (Int.natCast_mul _ _).symm
  rw [Catalog.find, hoffset, matchingIds, ← List.map_drop, ← List.map_take]
  exact congrArg (List.map Item.id) (window_ofNat _ _ _)

/-- A page has as many items as are left, up to its size. -/
theorem length_of_find {read : Nat} {page : ItemPage}
    (hfind : (Catalog.store.find (w.query read)).run c = (.ok page, c)) :
    page.items.length = min w.size ((w.matchingIds c).length - read * w.size) := by
  have hlength := congrArg List.length (map_id_of_find hfind)
  rwa [List.length_map, List.length_take, List.length_drop] at hlength

end

/-- The reader is on track: the matching ids have only grown at their end, and what was seen is their
beginning, in full pages as long as the reader goes on and to the end when it has stopped. -/
structure OnTrack (first : Catalog) (s : State) : Prop where
  grown : w.matchingIds first <+: w.matchingIds s.catalog
  seen : s.seen.map Item.id = (w.matchingIds s.catalog).take (s.read * w.size)
  full : s.stopped = false → s.read * w.size ≤ (w.matchingIds s.catalog).length
  done : s.stopped = true → (w.matchingIds s.catalog).length ≤ s.read * w.size

namespace OnTrack

variable {w} {first : Catalog} {s t : State}

/-- A reader who has read nothing is on track. -/
theorem start (first : Catalog) : w.OnTrack first (State.start first) where
  grown := List.prefix_rfl
  seen := by simp [State.start]
  full := by simp [State.start]
  done := nofun

/-- What was seen and the page that is found then are the beginning of the matching ids, one page
longer. -/
theorem map_id_seen_append (h : w.OnTrack first s) {page : ItemPage}
    (hfind : (Catalog.store.find (w.query s.read)).run s.catalog = (.ok page, s.catalog)) :
    (s.seen ++ page.items).map Item.id =
      (w.matchingIds s.catalog).take ((s.read + 1) * w.size) := by
  rw [List.map_append, h.seen, map_id_of_find hfind, ← List.take_add, Nat.succ_mul]

/-- A step of either party keeps the reader on track. -/
theorem step (h : w.OnTrack first s) (hstep : w.Step s t) : w.OnTrack first t := by
  cases hstep with
  | @write c read seen batch hkeeps =>
      have hgrown := matchingIds_prefix_upsert hkeeps
      have hfull : read * w.size ≤ (w.matchingIds c).length := h.full rfl
      refine ⟨h.grown.trans hgrown, ?_, fun _ => Nat.le_trans hfull hgrown.length_le, nofun⟩
      -- what was seen lies before everything that the batch can add
      obtain ⟨added, hadded⟩ := hgrown
      rw [h.seen, ← hadded]
      exact (List.take_append_of_le_length hfull).symm
  | @turn c read seen page hfind hfull =>
      have hbefore : read * w.size ≤ (w.matchingIds c).length := h.full rfl
      have hlength := length_of_find hfind
      have hmore : (read + 1) * w.size ≤ (w.matchingIds c).length := by
        rw [Nat.succ_mul]
        omega
      exact ⟨h.grown, h.map_id_seen_append hfind, fun _ => hmore, nofun⟩
  | @stop c read seen page hfind hshort =>
      have hlength := length_of_find hfind
      have hall : (w.matchingIds c).length ≤ (read + 1) * w.size := by
        rw [Nat.succ_mul]
        omega
      exact ⟨h.grown, h.map_id_seen_append hfind, nofun, fun _ => hall⟩

/-- So does a run of both. -/
theorem run (hrun : Relation.ReflTransGen w.Step (State.start first) s) : w.OnTrack first s := by
  induction hrun with
  | refl => exact start first
  | tail _ hstep ih => exact ih.step hstep

end OnTrack

variable {w}

/-- **Every matching item is seen once.**  However the calls of the reader and the batches of the
writer follow each other, when the reader stops it has seen exactly the ids that match at its last
call, each once and in the order of the catalog, and among them every id that matched at the start. -/
theorem paging_sees_each_once {first : Catalog} {s : State}
    (hrun : Relation.ReflTransGen w.Step (State.start first) s) (hstopped : s.stopped = true) :
    s.seen.map Item.id = (s.catalog.matching w.predicate w.title).map Item.id ∧
      (s.seen.map Item.id).Nodup ∧
      ∀ item ∈ first.matching w.predicate w.title, (s.seen.map Item.id).count item.id = 1 := by
  have htrack := OnTrack.run hrun
  have hseen : s.seen.map Item.id = w.matchingIds s.catalog := by
    rw [htrack.seen, List.take_of_length_le (htrack.done hstopped)]
  rw [hseen]
  refine ⟨rfl, nodup_matchingIds, ?_⟩
  intro item hitem
  have hstart : item.id ∈ w.matchingIds first := List.mem_map_of_mem hitem
  exact List.count_eq_one_of_mem nodup_matchingIds (htrack.grown.subset hstart)

/-- Between a full page and the last one the writer changes the title of an item that was seen, puts the
text "1" beside the number 1, and adds an item that does not match. -/
theorem paging_with_one_batch_between :
    let w : PageWalk := ⟨some (.overlaps (.ofList [7]) true), none, 2⟩
    let first := Catalog.ofList
      [{ id := .number 1, tags := [7] }, { id := .number 2 }, { id := .number 3, tags := [7] }]
    let batch : List Item :=
      [{ id := .text "1", tags := [0, 7] }, { id := .number 1, title := "new", tags := [7, 7] },
        { id := .number 4 }]
    let last : State := ⟨first.upsert batch, 2,
      [{ id := .number 1, tags := [7] }, { id := .number 3, tags := [7] },
        { id := .text "1", tags := [0, 7] }], true⟩
    Relation.ReflTransGen w.Step (State.start first) last ∧ last.stopped = true ∧
      (last.catalog.matching w.predicate w.title).map Item.id = [.number 1, .number 3, .text "1"] ∧
      (last.seen.map Item.id).Nodup ∧ (last.seen.map Item.id).count (.number 3) = 1 := by
  intro w first batch last
  have hkeeps : w.KeepsAnswers first batch := keepsAnswers_of_batch (by decide)
  let page : List Item := [{ id := .number 1, tags := [7] }, { id := .number 3, tags := [7] }]
  have hfirst : w.Step (State.start first) ⟨first, 1, page, false⟩ := .turn rfl (by decide)
  have hwrite : w.Step ⟨first, 1, page, false⟩ ⟨first.upsert batch, 1, page, false⟩ :=
    .write batch hkeeps
  have hlast : w.Step ⟨first.upsert batch, 1, page, false⟩ last := .stop rfl (by decide)
  have hrun : Relation.ReflTransGen w.Step (State.start first) last :=
    ((Relation.ReflTransGen.single hfirst).tail hwrite).tail hlast
  obtain ⟨hseen, honce, hevery⟩ := paging_sees_each_once hrun rfl
  exact ⟨hrun, rfl, hseen.symm, honce, hevery { id := .number 3, tags := [7] } (by decide)⟩

end PageWalk

end TagSearch
