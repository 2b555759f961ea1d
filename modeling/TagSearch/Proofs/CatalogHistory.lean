import Mathlib.Data.List.Induction
import Mathlib.Data.List.Nodup
import TagSearch.Store.Catalog

/-!
# What a catalog keeps of its history

The content of a catalog is a function of the items put into it since it was last cleared, its
history.  `latest` says which: every id that occurs, in the order of first occurrence, with the item
that was put in last under it.  The catalog never looks at its history; it searches a list for the id
of each new item and replaces the old one where it stands.

1.  An item put in leaves the ids that are there at their places (`ids_prefix_put`) and is the only
    one under its id afterwards (`eq_or_mem_of_mem_put`).
2.  So after a history the ids are those of the history without repeats (`ids_ofList`), each with the
    last item that has it (`lastWith_of_mem_ofList`), and this determines the list
    (`items_ofList`).
3.  An operation takes the catalog of a history to that of the history it leaves, and gives the answer
    that belongs to it (`perform_ofList`).

`catalog_keeps_latest` says this of whole runs.
-/

namespace TagSearch

namespace Catalog

variable {c : Catalog} {item other : Item}

/-- The ids of a catalog, in order. -/
def ids (c : Catalog) : List ItemId := c.items.map Item.id

/-- Putting an item in adds its id at the end, unless it is there. -/
theorem ids_put : (c.put item).ids = if item.id ∈ c.ids then c.ids else c.ids ++ [item.id] :=
  map_id_putIn item c.items

/-- The ids of a catalog keep their order and places. -/
theorem ids_prefix_put : c.ids <+: (c.put item).ids := by
  rw [ids_put]
  split
  · exact List.prefix_rfl
  · exact List.prefix_append _ _

/-- An item that was put in is there. -/
theorem mem_put_self : item ∈ (c.put item).items := by
  show item ∈ putIn item c.items
  induction c.items with
  | nil => exact List.mem_cons_self
  | cons old rest ih =>
      rw [putIn]
      split
      · exact List.mem_cons_self
      · exact List.mem_cons_of_mem _ ih

/-- Two items of a catalog with one id are the same item. -/
theorem eq_of_id_eq (hitem : item ∈ c.items) (hother : other ∈ c.items) (hid : item.id = other.id) :
    item = other :=
  List.inj_on_of_nodup_map c.distinct hitem hother hid

/-- What is there afterwards is the item itself, or an item from before with another id. -/
theorem eq_or_mem_of_mem_put (h : other ∈ (c.put item).items) :
    other = item ∨ (other ∈ c.items ∧ item.id ≠ other.id) := by
  by_cases hid : item.id = other.id
  · exact Or.inl (eq_of_id_eq h mem_put_self hid.symm)
  · rcases mem_putIn h with heq | hold
    · exact Or.inl heq
    · exact Or.inr ⟨hold, hid⟩

/-- Two batches come to the same as one after the other. -/
theorem upsert_append (xs ys : List Item) : c.upsert (xs ++ ys) = (c.upsert xs).upsert ys :=
  List.foldl_append

/-- A catalog with a batch put in is that of the longer history. -/
theorem ofList_append (history batch : List Item) :
    ofList (history ++ batch) = (ofList history).upsert batch := upsert_append history batch

/-- **No update moves an item**: the ids that are there keep their places, and new ones come behind
them. -/
theorem ids_prefix_upsert (items : List Item) : c.ids <+: (c.upsert items).ids := by
  induction items generalizing c with
  | nil => exact List.prefix_rfl
  | cons item rest ih => exact ids_prefix_put.trans ih

/-- A batch brings in no items but its own. -/
theorem mem_of_mem_upsert {items : List Item} (h : other ∈ (c.upsert items).items) :
    other ∈ items ∨ other ∈ c.items := by
  induction items generalizing c with
  | nil => exact Or.inr h
  | cons item rest ih =>
      rcases ih h with hrest | hput
      · exact Or.inl (List.mem_cons_of_mem _ hrest)
      · rcases mem_putIn hput with rfl | hold
        · exact Or.inl List.mem_cons_self
        · exact Or.inr hold

/-- The last item of a history with an id. -/
def lastWith (id : ItemId) (history : List Item) : Option Item :=
  history.reverse.find? (·.id = id)

/-- What a history comes down to: its ids in the order of first occurrence, each with the last item
that has it. -/
def latest (history : List Item) : List Item :=
  (history.map Item.id).eraseDups.filterMap fun id => lastWith id history

/-- Of a longer history the last item with an id is its last item, if that has the id. -/
theorem lastWith_concat (id : ItemId) (history : List Item) (item : Item) :
    lastWith id (history ++ [item]) = if item.id = id then some item else lastWith id history := by
  rw [lastWith, List.reverse_append, List.reverse_singleton, List.singleton_append, List.find?_cons]
  by_cases h : item.id = id
  · simp [h]
  · simp [h, lastWith]

variable (history : List Item)

/-- The ids of a catalog are those of its history, in the order of first occurrence. -/
theorem ids_ofList : (ofList history).ids = (history.map Item.id).eraseDups := by
  induction history using List.reverseRecOn with
  | nil => rfl
  | append_singleton history item ih =>
      have hput : ofList (history ++ [item]) = (ofList history).put item := ofList_append history [item]
      rw [hput, ids_put, ih, List.map_append, List.eraseDups_append, List.map_singleton,
        List.removeAll, List.filter_singleton, List.elem_eq_mem]
      by_cases h : item.id ∈ history.map Item.id
      · rw [if_pos (List.mem_eraseDups.mpr h), decide_eq_true h]
        simp
      · rw [if_neg (fun hmem => h (List.mem_eraseDups.mp hmem)), decide_eq_false h]
        simp [List.eraseDups_cons]

/-- An item of a catalog is the last one with its id in the history. -/
theorem lastWith_of_mem_ofList {item : Item} (hitem : item ∈ (ofList history).items) :
    lastWith item.id history = some item := by
  induction history using List.reverseRecOn generalizing item with
  | nil => cases hitem
  | append_singleton history new ih =>
      have hput : ofList (history ++ [new]) = (ofList history).put new := ofList_append history [new]
      rw [hput] at hitem
      rw [lastWith_concat]
      rcases eq_or_mem_of_mem_put hitem with rfl | ⟨hold, hne⟩
      · exact if_pos rfl
      · rw [if_neg hne]
        exact ih hold

/-- **A catalog has what its history comes down to.** -/
theorem items_ofList : (ofList history).items = latest history := by
  have hids : latest history =
      (ofList history).items.filterMap fun item => lastWith item.id history := by
    rw [latest, ← ids_ofList, ids, List.filterMap_map]
    rfl
  have hlast : ∀ item ∈ (ofList history).items, lastWith item.id history = some item := by
    intro item hitem
    exact lastWith_of_mem_ofList history hitem
  rw [hids, List.filterMap_congr hlast, List.filterMap_some]

/-- What can be done with a catalog. -/
inductive Op
  | upsert (items : List Item)
  | clear
  | ensure
  | find (q : Query)

/-- What comes back from an operation. -/
inductive Answer
  | stored (count : Except Fault Nat)
  | cleared
  | ensured (e : Ensured)
  | found (page : Except Fault ItemPage)

namespace Op

/-- Carries out an operation. -/
def perform : Op → StateM Catalog Answer
  | .upsert items => return .stored (← store.upsert items)
  | .clear => do
    store.clear
    return .cleared
  | .ensure => return .ensured (← store.ensure)
  | .find q => return .found (← store.find q)

/-- Carries out operations in order. -/
def performAll : List Op → StateM Catalog (List Answer)
  | [] => return []
  | op :: rest => do
    let answer ← op.perform
    let answers ← performAll rest
    return answer :: answers

/-- The history after an operation. -/
def remember (history : List Item) : Op → List Item
  | .upsert items => history ++ items
  | .clear => []
  | .ensure | .find _ => history

/-- The history after operations in order. -/
def rememberAll (history : List Item) (ops : List Op) : List Item := ops.foldl remember history

/-- The answer that an operation has to give after a history. -/
def Answered (history : List Item) : Op → Answer → Prop
  | .upsert items, a => a = .stored (.ok items.length)
  | .clear, a => a = .cleared
  | .ensure, a => a = .ensured ⟨"memory", false⟩
  | .find q, a =>
    ∃ page, a = .found (.ok page) ∧
      page.total = ((latest history).filter (·.satisfies q.predicate q.title)).length ∧
      (0 ≤ q.offset → 0 ≤ q.limit → page.items =
        (((latest history).filter (·.satisfies q.predicate q.title)).drop q.offset.toNat).take
          q.limit.toNat)

/-- The answers that operations have to give in order. -/
def AllAnswered (history : List Item) : List Op → List Answer → Prop
  | [], [] => True
  | op :: ops, answer :: answers =>
    op.Answered history answer ∧ AllAnswered (op.remember history) ops answers
  | _, _ => False

variable {history}

/-- A query is answered by the items that the history comes down to. -/
theorem answered_find (q : Query) :
    (Op.find q).Answered history (.found (.ok ((ofList history).find q))) := by
  have hmatching : (ofList history).matching q.predicate q.title =
      (latest history).filter (·.satisfies q.predicate q.title) := by
    rw [matching, items_ofList]
  refine ⟨_, rfl, ?_, ?_⟩
  · rw [Catalog.find, hmatching]
  · intro hoffset hlimit
    obtain ⟨offset, hoffset⟩ := Int.eq_ofNat_of_zero_le hoffset
    obtain ⟨limit, hlimit⟩ := Int.eq_ofNat_of_zero_le hlimit
    rw [Catalog.find, hmatching, hoffset, hlimit, window_ofNat, Int.toNat_natCast, Int.toNat_natCast]

/-- One operation on the catalog of a history. -/
theorem perform_ofList (op : Op) :
    ∃ answer, op.perform.run (ofList history) = (answer, ofList (op.remember history)) ∧
      op.Answered history answer := by
  cases op with
  | upsert items =>
      refine ⟨.stored (.ok items.length), ?_, rfl⟩
      rw [remember, ofList_append]
      rfl
  | clear => exact ⟨.cleared, rfl, rfl⟩
  | ensure => exact ⟨.ensured ⟨"memory", false⟩, rfl, rfl⟩
  | find q => exact ⟨.found (.ok ((ofList history).find q)), rfl, answered_find q⟩

/-- A run goes on from where its first operation ends. -/
theorem run_performAll_cons {op : Op} {rest : List Op} {c next last : Catalog} {answer : Answer}
    {answers : List Answer} (hop : op.perform.run c = (answer, next))
    (hrest : (performAll rest).run next = (answers, last)) :
    (performAll (op :: rest)).run c = (answer :: answers, last) := by
  have hrun : (performAll (op :: rest)).run c =
      ((op.perform.run c).1 :: ((performAll rest).run (op.perform.run c).2).1,
        ((performAll rest).run (op.perform.run c).2).2) := rfl
  rw [hrun, hop, hrest]

/-- A run of operations on the catalog of a history. -/
theorem performAll_ofList (ops : List Op) :
    ∃ answers, (performAll ops).run (ofList history) = (answers, ofList (rememberAll history ops)) ∧
      AllAnswered history ops answers := by
  induction ops generalizing history with
  | nil => exact ⟨[], rfl, trivial⟩
  | cons op rest ih =>
      obtain ⟨answer, hstep, hanswer⟩ := op.perform_ofList
      obtain ⟨answers, hrun, hanswers⟩ := ih
      exact ⟨answer :: answers, run_performAll_cons hstep hrun, hanswer, hanswers⟩

end Op

/-- **A catalog keeps the latest of its history, over any run.**  Started from a list of items, a run of
operations ends in the catalog whose items are the latest of what was put in since it was last
cleared, and every answer on the way is the one that belongs to the history at that point.  The ids of
these items are distinct and stand in the order of their first occurrence, and each item is the last
that was put in under its id.  Numbers and texts are different ids.  No batch moves an id, finding and
ensuring change nothing, and a batch may be cut in two. -/
theorem catalog_keeps_latest (init : List Item) (ops : List Op) :
    (∃ answers c, (Op.performAll ops).run (ofList init) = (answers, c) ∧
        c.items = latest (Op.rememberAll init ops) ∧ Op.AllAnswered init ops answers) ∧
      (∀ history, (latest history).map Item.id = (history.map Item.id).eraseDups ∧
        ((latest history).map Item.id).Nodup ∧
        ∀ item ∈ latest history, lastWith item.id history = some item) ∧
      (∀ n t, ItemId.number n ≠ ItemId.text t) ∧
      ∀ (c : Catalog) (xs ys : List Item) (q : Query),
        c.ids <+: (c.upsert xs).ids ∧
        ((Op.find q).perform.run c).2 = c ∧ (Op.ensure.perform.run c).2 = c ∧
        (Op.upsert (xs ++ ys)).perform.run c =
          (.stored (.ok (xs.length + ys.length)),
            ((Op.performAll [.upsert xs, .upsert ys]).run c).2) := by
  refine ⟨?_, ?_, nofun, ?_⟩
  · obtain ⟨answers, hrun, hanswers⟩ := Op.performAll_ofList ops
    exact ⟨answers, _, hrun, items_ofList _, hanswers⟩
  · intro history
    have hids := ids_ofList history
    have hdistinct := (ofList history).distinct
    rw [ids, items_ofList] at hids
    rw [items_ofList] at hdistinct
    refine ⟨hids, hdistinct, ?_⟩
    intro item hitem
    rw [← items_ofList] at hitem
    exact lastWith_of_mem_ofList history hitem
  · intro c xs ys q
    refine ⟨ids_prefix_upsert xs, rfl, rfl, ?_⟩
    show (Answer.stored (.ok (xs ++ ys).length), c.upsert (xs ++ ys)) = (_, (c.upsert xs).upsert ys)
    rw [upsert_append, List.length_append]

/-- The number 5 and the text "5" are two ids, a repeated id keeps its first place with its last item,
and an id that comes again after a reset has a new place. -/
example :
    ((Op.performAll [.clear, .upsert [{ id := .text "5" }, { id := .number 9, tags := [1] },
        { id := .number 5 }, { id := .number 9, tags := [2] }]]).run
      (ofList [{ id := .number 5 }])).2.items =
      [{ id := .text "5" }, { id := .number 9, tags := [2] }, { id := .number 5 }] := by
  decide

end Catalog

end TagSearch
