import TagSearch.Proofs.JsonScalars
import TagSearch.Proofs.StoreSimulation

/-!
# Which items share a point

A number that is not negative is the id of its own point.  Every other id has the UUID of a name: a
text is its own name, and a negative number goes by the text that it is written as.  So the number -5
and the text "-5" share a point, and of two items with these ids one is lost though both were taken.
Here it is shown that nothing else is lost.

1.  Names: two ids have one name only if they are equal or twins, a negative number and its text
    (`name?_eq_iff`).
2.  Points: the same holds of points (`pointId_eq_iff`), so the ids of a batch have points of their own
    exactly where no twins are among them (`pointsApart_iff`).
3.  Batches: `twins_lose_an_item` says what becomes of a batch of items with distinct ids.

A digest of twenty bytes cannot tell all texts apart.  What is asked of it is `Uuid.NamesApart`: that
it tells apart the names of the ids at hand, which can be computed.
-/

namespace TagSearch

/-- Different whole numbers are written differently. -/
theorem intText_injective : Function.Injective intText := by
  intro m n h
  have hends : Json.EndsNumber [] := True.intro
  exact (Json.intText_append_inj hends hends (congrArg (· ++ []) h)).1

namespace ItemId

/-- A number as a text. -/
def written (n : Int) : ItemId := .text (String.ofList (intText n))

/-- The name whose UUID identifies the point, for an id whose point has one. -/
def name? : ItemId → Option String
  | .number n => if n < 0 ∧ fitsText n = true then some (String.ofList (intText n)) else none
  | .text t => t.toString?

/-- Whether an id has a point; a text with a surrogate has none, and neither has a negative number that is
too long to be written. -/
def hasPoint : ItemId → Bool
  | .number n => 0 ≤ n || fitsText n
  | .text t => t.toString?.isSome

/-- A negative number and its text, in either order. -/
def Twin (a b : ItemId) : Prop :=
  ∃ n : Int, n < 0 ∧ (a = .number n ∧ b = written n ∨ a = written n ∧ b = .number n)

/-- Numbers that are written alike are equal. -/
theorem written_injective : Function.Injective written := by
  intro m n h
  have htext := Text.ofString_inj.mp (ItemId.text.inj h)
  exact intText_injective (String.ofList_injective htext)

variable {a b : ItemId} {x : String}

/-- A negative number that can be written goes by that text. -/
theorem name?_negative {n : Int} (hneg : n < 0) (hfit : fitsText n = true) :
    (number n).name? = some (String.ofList (intText n)) := if_pos ⟨hneg, hfit⟩

/-- What has a name: a negative number that can be written, and a text. -/
theorem name?_eq_some_iff :
    a.name? = some x ↔
      (∃ n < 0, fitsText n = true ∧ a = .number n ∧ written n = .text x) ∨ a = .text x := by
  cases a with
  | number n =>
      by_cases hneg : n < 0 ∧ fitsText n = true
      · simp [name?, hneg, written]
      · rw [name?, if_neg hneg]
        refine iff_of_false nofun ?_
        rintro (⟨m, hm, hfit, hnumber, -⟩ | htext)
        · obtain rfl := ItemId.number.inj hnumber
          exact hneg ⟨hm, hfit⟩
        · cases htext
  | text t => simp [name?, Text.toString?_eq_some_iff]

/-- A negative number with a point can be written. -/
theorem fitsText_of_hasPoint {n : Int} (hneg : n < 0) (h : (number n).hasPoint = true) :
    fitsText n = true := by
  rw [hasPoint, Bool.or_eq_true, decide_eq_true_iff] at h
  exact h.resolve_left (Int.not_le.mpr hneg)

/-- **Ids have one name only if they are equal or twins.** -/
theorem name?_eq_iff (ha : a.name? = some x) (hasb : b.hasPoint = true) :
    b.name? = some x ↔ a = b ∨ a.Twin b := by
  constructor
  · intro hb
    rcases name?_eq_some_iff.mp ha with ⟨n, hn, -, rfl, hx⟩ | rfl
    · rcases name?_eq_some_iff.mp hb with ⟨m, -, -, rfl, hx'⟩ | rfl
      · have heq : n = m := written_injective (hx.trans hx'.symm)
        exact Or.inl (congrArg number heq)
      · exact Or.inr ⟨n, hn, Or.inl ⟨rfl, hx.symm⟩⟩
    · rcases name?_eq_some_iff.mp hb with ⟨m, hm, -, rfl, hx'⟩ | rfl
      · exact Or.inr ⟨m, hm, Or.inr ⟨hx'.symm, rfl⟩⟩
      · exact Or.inl rfl
  · intro h
    rcases h with rfl | ⟨n, hn, ⟨rfl, rfl⟩ | ⟨rfl, rfl⟩⟩
    · exact ha
    · rcases name?_eq_some_iff.mp ha with ⟨m, -, -, hnumber, hx⟩ | htext
      · obtain rfl := ItemId.number.inj hnumber
        exact name?_eq_some_iff.mpr (Or.inr hx)
      · cases htext
    · rw [name?_negative hn (fitsText_of_hasPoint hn hasb)]
      exact ha

end ItemId

/-- No two names of the ids have one UUID. -/
def Uuid.NamesApart (itemNamespace : Uuid) (ids : List ItemId) : Prop :=
  ∀ x ∈ ids.filterMap ItemId.name?, ∀ y ∈ ids.filterMap ItemId.name?,
    itemNamespace.ofName x = itemNamespace.ofName y → x = y

instance (itemNamespace : Uuid) (ids : List ItemId) : Decidable (itemNamespace.NamesApart ids) :=
  inferInstanceAs (Decidable (∀ x ∈ ids.filterMap ItemId.name?, ∀ y ∈ ids.filterMap ItemId.name?,
    itemNamespace.ofName x = itemNamespace.ofName y → x = y))

namespace ItemId

variable {itemNamespace : Uuid} {a b : ItemId} {x : String}

/-- A number that is not negative is its own point. -/
theorem pointId_natural (n : Nat) : (number n).pointId itemNamespace = .ok (.number n) := rfl

/-- A name has its UUID. -/
theorem pointId_of_name? (h : a.name? = some x) :
    a.pointId itemNamespace = .ok (.uuid (itemNamespace.ofName x)) := by
  rcases name?_eq_some_iff.mp h with ⟨n, hn, hfit, rfl, hx⟩ | rfl
  · have hname : String.ofList (intText n) = x := Text.ofString_inj.mp (ItemId.text.inj hx)
    rw [pointId, if_neg (Int.not_le.mpr hn), hname]
    exact ifFitting_eq_ok_iff.mpr ⟨List.forall_mem_singleton.mpr hfit, rfl⟩
  · rw [pointId, Text.encodable_ofString]
    rfl

/-- An id with a point is the number of the point or has a name. -/
theorem natural_or_named (h : a.hasPoint) : (∃ n : Nat, a = .number n) ∨ ∃ x, a.name? = some x := by
  cases a with
  | number n =>
      cases n with
      | ofNat n => exact Or.inl ⟨n, rfl⟩
      | negSucc n =>
          have hneg : Int.negSucc n < 0 := Int.negSucc_lt_zero n
          exact Or.inr ⟨_, name?_negative hneg (fitsText_of_hasPoint hneg h)⟩
  | text t => exact Or.inr (Option.isSome_iff_exists.mp h)

/-- An id with a point gets it. -/
theorem pointId_of_hasPoint (h : a.hasPoint) : ∃ p, a.pointId itemNamespace = .ok p := by
  rcases natural_or_named h with ⟨n, rfl⟩ | ⟨x, hx⟩
  · exact ⟨_, pointId_natural n⟩
  · exact ⟨_, pointId_of_name? hx⟩

/-- An id without a point is a negative number that cannot be written, or a text without an encoding. -/
theorem pointId_of_not_hasPoint (h : a.hasPoint = false) :
    (∃ n, a = .number n ∧ fitsText n = false ∧ a.pointId itemNamespace = .error .numberTooLong) ∨
      ∃ f, a.pointId itemNamespace = .error (.unencodable f) := by
  cases a with
  | number n =>
      rw [hasPoint, Bool.or_eq_false_iff, decide_eq_false_iff_not] at h
      refine Or.inl ⟨n, rfl, h.2, ?_⟩
      rw [pointId, if_neg h.1]
      exact ifFitting_eq_error_iff.mpr ⟨⟨n, List.mem_singleton_self n, h.2⟩, rfl⟩
  | text t =>
      cases hfault : t.encodingFault? with
      | none =>
          obtain ⟨x, rfl⟩ := Text.encodingFault?_eq_none_iff.mp hfault
          cases h
      | some f =>
          refine Or.inr ⟨f, ?_⟩
          rw [pointId, Text.encodable, hfault]
          rfl

/-- A number that is not negative has no name. -/
theorem natural_ne_of_name? (n : Nat) (hx : a.name? = some x) : number n ≠ a := by
  intro heq
  rw [← heq] at hx
  cases hx

/-- It has no twin either. -/
theorem natural_not_twin (n : Nat) : ¬(number n).Twin b := by
  intro htwin
  obtain ⟨m, hm, ⟨hnumber, -⟩ | ⟨htext, -⟩⟩ := htwin
  · have heq := ItemId.number.inj hnumber
    omega
  · cases htext

/-- Twins are twins of each other. -/
theorem Twin.symm (h : a.Twin b) : b.Twin a := by
  obtain ⟨n, hn, hab⟩ := h
  exact ⟨n, hn, hab.symm.imp And.symm And.symm⟩

/-- **Ids have one point only if they are equal or twins**, where different names have different
UUIDs. -/
theorem pointId_eq_iff {ids : List ItemId} (hnames : itemNamespace.NamesApart ids) (ha : a ∈ ids)
    (hb : b ∈ ids) (hasa : a.hasPoint) (hasb : b.hasPoint) :
    a.pointId itemNamespace = b.pointId itemNamespace ↔ a = b ∨ a.Twin b := by
  rcases natural_or_named hasa with ⟨m, rfl⟩ | ⟨x, hx⟩
  · rw [or_iff_left (natural_not_twin m), pointId_natural]
    rcases natural_or_named hasb with ⟨n, rfl⟩ | ⟨y, hy⟩
    · simp only [pointId_natural, Except.ok.injEq, PointId.number.injEq, ItemId.number.injEq]
      omega
    · rw [pointId_of_name? hy]
      exact iff_of_false nofun (natural_ne_of_name? m hy)
  · rcases natural_or_named hasb with ⟨n, rfl⟩ | ⟨y, hy⟩
    · have hnot : ¬a.Twin (number n) := fun htwin => natural_not_twin n htwin.symm
      rw [or_iff_left hnot, pointId_natural, pointId_of_name? hx]
      exact iff_of_false nofun (natural_ne_of_name? n hx).symm
    · rw [← name?_eq_iff hx hasb, pointId_of_name? hx, pointId_of_name? hy, hy]
      have hxmem := List.mem_filterMap.mpr ⟨a, ha, hx⟩
      have hymem := List.mem_filterMap.mpr ⟨b, hb, hy⟩
      constructor
      · intro h
        rw [hnames x hxmem y hymem (PointId.uuid.inj (Except.ok.inj h))]
      · intro h
        rw [Option.some.inj h]

end ItemId

/-- No negative number is among the ids together with its text. -/
def TwinFree (ids : List ItemId) : Prop := ∀ n < 0, .number n ∈ ids → ItemId.written n ∉ ids

section

variable {ids : List ItemId} {itemNamespace : Uuid}

/-- There are no twins where no negative number stands with its text. -/
theorem twinFree_iff : TwinFree ids ↔ ∀ a ∈ ids, ∀ b ∈ ids, ¬a.Twin b := by
  constructor
  · intro hfree a ha b hb htwin
    obtain ⟨n, hn, ⟨rfl, rfl⟩ | ⟨rfl, rfl⟩⟩ := htwin
    · exact hfree n hn ha hb
    · exact hfree n hn hb ha
  · intro hfree n hn hnumber htext
    exact hfree _ hnumber _ htext ⟨n, hn, Or.inl ⟨rfl, rfl⟩⟩

/-- **Ids have points of their own exactly where no twins are among them.** -/
theorem pointsApart_iff (hnames : itemNamespace.NamesApart ids) (hpoints : ∀ id ∈ ids, id.hasPoint) :
    PointsApart itemNamespace ids ↔ TwinFree ids := by
  rw [twinFree_iff]
  constructor
  · intro hids a ha b hb htwin
    have hpoint := (ItemId.pointId_eq_iff hnames ha hb (hpoints a ha) (hpoints b hb)).mpr
      (Or.inr htwin)
    have heq : a = b := hids.apart a ha b hb hpoint
    obtain ⟨n, -, ⟨rfl, rfl⟩ | ⟨rfl, rfl⟩⟩ := htwin
    · cases heq
    · cases heq
  · intro hfree
    refine ⟨fun id hid => ItemId.pointId_of_hasPoint (hpoints id hid), ?_⟩
    intro a ha b hb hpoint
    have hcases := (ItemId.pointId_eq_iff hnames ha hb (hpoints a ha) (hpoints b hb)).mp hpoint
    exact hcases.resolve_right (hfree a ha b hb)

end

section

variable {s : Settings} {items : List Item}

/-- Where the ids are distinct, points of their own are points that are distinct. -/
theorem nodup_pointKey_iff (hids : (items.map Item.id).Nodup)
    (hpoints : ∀ item ∈ items, item.id.hasPoint) :
    (items.map (Item.pointKey s)).Nodup ↔ PointsApart s.itemNamespace (items.map Item.id) := by
  have hdefined : ∀ item ∈ items, item.id.pointId s.itemNamespace = .ok (item.pointKey s) := by
    intro item hitem
    exact pointId_eq_of_defined (ItemId.pointId_of_hasPoint (hpoints item hitem))
  constructor
  · intro hkeys
    constructor
    · intro id hid
      obtain ⟨item, hitem, rfl⟩ := List.mem_map.mp hid
      exact ⟨_, hdefined item hitem⟩
    · intro a ha b hb hpoint
      obtain ⟨item, hitem, rfl⟩ := List.mem_map.mp ha
      obtain ⟨other, hother, rfl⟩ := List.mem_map.mp hb
      rw [hdefined item hitem, hdefined other hother] at hpoint
      rw [List.inj_on_of_nodup_map hkeys hitem hother (Except.ok.inj hpoint)]
  · intro hapart
    refine List.Nodup.map_on ?_ (List.Nodup.of_map _ hids)
    intro item hitem other hother hkey
    have hid := (pointKey_eq_iff hapart (List.mem_map_of_mem hitem) (List.mem_map_of_mem hother)).mp
      hkey
    exact List.inj_on_of_nodup_map hids hitem hother hid

/-- A batch with an id that has no point has the fault of the first one. -/
theorem mapM_point_of_not_hasPoint (h : ∃ item ∈ items, item.id.hasPoint = false) :
    ∃ item ∈ items, ∃ f, item.id.hasPoint = false ∧ item.id.pointId s.itemNamespace = .error f ∧
      items.mapM (·.point s) = .error f := by
  obtain ⟨item, hitem, hnone⟩ := h
  induction items with
  | nil => cases hitem
  | cons first rest ih =>
      rw [List.mapM_cons]
      by_cases hfirst : first.id.hasPoint = false
      · obtain ⟨f, hf⟩ : ∃ f, first.id.pointId s.itemNamespace = .error f := by
          rcases ItemId.pointId_of_not_hasPoint hfirst with ⟨n, -, -, hf⟩ | ⟨f, hf⟩
          · exact ⟨_, hf⟩
          · exact ⟨_, hf⟩
        refine ⟨first, List.mem_cons_self, f, hfirst, hf, ?_⟩
        rw [Item.point, hf]
        rfl
      · obtain ⟨p, hp⟩ := ItemId.pointId_of_hasPoint (eq_true_of_ne_false hfirst)
        have hrest : item ∈ rest := by
          rcases List.mem_cons.mp hitem with rfl | hrest
          · exact absurd hnone hfirst
          · exact hrest
        obtain ⟨bad, hbad, f, hpointless, hfault, hf⟩ := ih hrest
        refine ⟨bad, List.mem_cons_of_mem first hbad, f, hpointless, hfault, ?_⟩
        rw [Item.point, hp, hf]
        rfl

/-- **Twins lose an item, and nothing else does.**  The ids of a batch are distinct, and their names
have different UUIDs.  Two ids have one point exactly if they are twins.  A batch with an id that has no
point is refused with the fault of that id, and nothing is sent.  Any other batch is taken as a whole: its
points are distinct exactly if no twins are among the ids, then every item keeps its payload, and a
collection that was empty has as many points as there were items only then. -/
theorem twins_lose_an_item (hids : (items.map Item.id).Nodup)
    (hnames : s.itemNamespace.NamesApart (items.map Item.id)) (listing : Listing)
    (b : PointStore.Connected) {remote : Remote} {points : PointMap}
    (hlookup : remote.lookup s.collection = some points) :
    (∀ item ∈ items, ∀ other ∈ items, item.id ≠ other.id → item.id.hasPoint → other.id.hasPoint →
      (item.id.pointId s.itemNamespace = other.id.pointId s.itemNamespace ↔
        item.id.Twin other.id)) ∧
    ((∃ item ∈ items, item.id.hasPoint = false) →
      ∃ item ∈ items, ∃ f, item.id.hasPoint = false ∧
        item.id.pointId s.itemNamespace = .error f ∧
        (f = .numberTooLong ∨ ∃ g, f = .unencodable g) ∧
        ((PointStore.upsert s (Remote.service listing) items).run b).run remote =
          some ((.error f, b), remote)) ∧
    ((∀ item ∈ items, item.id.hasPoint) →
      ∃ batch b' remote' points',
        items.mapM (·.point s) = .ok batch ∧
        ((PointStore.upsert s (Remote.service listing) items).run b).run remote =
          some ((.ok items.length, b'), remote') ∧
        remote'.lookup s.collection = some points' ∧
        ((batch.map Point.id).Nodup ↔ TwinFree (items.map Item.id)) ∧
        (TwinFree (items.map Item.id) →
          ∀ item ∈ items, points'.lookup (item.pointKey s) = some (item.payload s)) ∧
        (points = ∅ → (points'.entries.length = items.length ↔ TwinFree (items.map Item.id)))) := by
  refine ⟨?_, ?_, ?_⟩
  · intro item hitem other hother hne hpoint hpoint'
    rw [ItemId.pointId_eq_iff hnames (List.mem_map_of_mem hitem) (List.mem_map_of_mem hother)
      hpoint hpoint', or_iff_right hne]
  · intro hnone
    obtain ⟨item, hitem, f, hpointless, hfault, hf⟩ := mapM_point_of_not_hasPoint (s := s) hnone
    refine ⟨item, hitem, f, hpointless, hfault, ?_, by simp [PointStore.upsert, hf]⟩
    rcases ItemId.pointId_of_not_hasPoint hpointless with ⟨n, -, -, hlong⟩ | ⟨g, hlone⟩
    · exact Or.inl (Except.error.inj (hfault.symm.trans hlong))
    · exact Or.inr ⟨g, Except.error.inj (hfault.symm.trans hlone)⟩
  · intro hpoints
    have hbatch := mapM_point_of_defined (s := s) fun item hitem =>
      ItemId.pointId_of_hasPoint (hpoints item hitem)
    obtain ⟨b', remote', hrun, hlookup'⟩ := PointStore.run_upsert listing b hlookup hbatch
    rw [List.length_map] at hrun
    have hapart : PointsApart s.itemNamespace (items.map Item.id) ↔ TwinFree (items.map Item.id) := by
      apply pointsApart_iff hnames
      intro id hid
      obtain ⟨item, hitem, rfl⟩ := List.mem_map.mp hid
      exact hpoints item hitem
    have hnodup : ((items.map (Item.knownPoint s)).map Point.id).Nodup ↔
        TwinFree (items.map Item.id) := by
      rw [List.map_map, ← hapart]
      exact nodup_pointKey_iff hids hpoints
    refine ⟨_, b', remote', _, hbatch, hrun, hlookup', hnodup, ?_, ?_⟩
    · intro hfree item hitem
      exact PointMap.lookup_upsert_of_mem (hnodup.mpr hfree) (List.mem_map_of_mem hitem)
    · intro hempty
      rw [hempty, ← hnodup, ← PointMap.length_upsert_empty_iff, List.length_map]

end

/-- The number 5, its text, the number -5 and a word have four points. -/
theorem fives_keep_their_points :
    let s : Settings := {}
    let items : List Item :=
      [{ id := .number 5 }, { id := .text "5" }, { id := .number (-5) }, { id := .text "five" }]
    let start : Remote := AList.singleton s.collection ∅
    (items.map Item.id).Nodup ∧ s.itemNamespace.NamesApart (items.map Item.id) ∧
      start.lookup s.collection = some ∅ ∧
      ∃ batch b remote points,
        items.mapM (·.point s) = .ok batch ∧
        ((PointStore.upsert s (Remote.service .byId) items).run false).run start =
          some ((.ok 4, b), remote) ∧
        remote.lookup s.collection = some points ∧
        (batch.map Point.id).Nodup ∧ points.entries.length = 4 := by
  intro s items start
  have hids : (items.map Item.id).Nodup := by decide
  have hnames : s.itemNamespace.NamesApart (items.map Item.id) := by decide +kernel
  have hempty : start.lookup s.collection = some ∅ := rfl
  have hpoints : ∀ item ∈ items, item.id.hasPoint := by decide
  have hfree : TwinFree (items.map Item.id) := by
    intro n hn hnumber
    have hfive : n = 5 ∨ n = -5 := by simpa [items] using hnumber
    obtain rfl : n = -5 := by omega
    decide
  obtain ⟨batch, b, remote, points, hbatch, hrun, hlookup, hnodup, -, hlength⟩ :=
    (twins_lose_an_item hids hnames .byId false hempty).2.2 hpoints
  exact ⟨hids, hnames, hempty, batch, b, remote, points, hbatch, hrun, hlookup, hnodup.mpr hfree,
    (hlength rfl).mpr hfree⟩

/-- The number -5 and the text "-5" are different ids with different items, and both items are taken;
but a single point is left. -/
theorem minus_five_lost :
    let s : Settings := {}
    let items : List Item := [{ id := .number (-5) }, { id := .text "-5" }]
    let start : Remote := AList.singleton s.collection ∅
    (items.map Item.id).Nodup ∧ s.itemNamespace.NamesApart (items.map Item.id) ∧
      (ItemId.number (-5)).pointId s.itemNamespace = (ItemId.text "-5").pointId s.itemNamespace ∧
      ∃ b remote points,
        ((PointStore.upsert s (Remote.service .byId) items).run false).run start =
          some ((.ok 2, b), remote) ∧
        remote.lookup s.collection = some points ∧ points.entries.length = 1 := by
  intro s items start
  have hids : (items.map Item.id).Nodup := by decide
  have hnames : s.itemNamespace.NamesApart (items.map Item.id) := by
    have hone : ∀ x ∈ (items.map Item.id).filterMap ItemId.name?, x = "-5" := by decide
    intro x hx y hy _
    rw [hone x hx, hone y hy]
  have hpoint : (ItemId.number (-5)).pointId s.itemNamespace =
      (ItemId.text "-5").pointId s.itemNamespace := rfl
  have hempty : start.lookup s.collection = some ∅ := rfl
  have hpoints : ∀ item ∈ items, item.id.hasPoint := by decide
  have hbatch := mapM_point_of_defined (s := s) fun item hitem =>
    ItemId.pointId_of_hasPoint (hpoints item hitem)
  obtain ⟨b, remote, hrun, hlookup⟩ := PointStore.run_upsert .byId false hempty hbatch
  refine ⟨hids, hnames, hpoint, b, remote, _, hrun, hlookup, ?_⟩
  have hone : (∅ : PointMap).upsert (items.map (Item.knownPoint s)) =
      (∅ : PointMap).insert (.uuid (s.itemNamespace.ofName "-5"))
        ({ id := .text "-5" : Item }.payload s) := AList.insert_insert _
  rw [hone]
  rfl

end TagSearch
