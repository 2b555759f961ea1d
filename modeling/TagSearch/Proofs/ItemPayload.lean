import TagSearch.Points.Store

/-!
# Items in payloads

A point carries an item as a payload of three fields, two of which are named by the settings.  What is
found under the field of the tags are always the tags.  The other two fields are safe only where all
three have different names, and then the payload of an item is read as that item.

* `idsAt_payload`: the numbers under the field of the tags are the item's tags;
* `ofPayload_payload`, `page_map`: items are read back from their payloads, one and a page of them.

Where two names are one, the field that was written last has both meanings.  The tags are no text and no
id, so a payload whose tags stand in the place of another field is refused.  But a title is an id too: if
it stands in the place of the id, what is read is an item, and another one.  So items keep exactly under
different names, `payload_keeps_items_iff`.
-/

namespace TagSearch

/-- The three fields of a payload have different names. -/
structure Settings.FieldsApart (s : Settings) : Prop where
  id_ne_title : "item_id" ≠ s.titleField
  id_ne_tags : "item_id" ≠ s.tagField
  title_ne_tags : s.titleField ≠ s.tagField

namespace Item

variable (s : Settings)

/-- The tags of an item are found under the name for tags. -/
theorem lookup_tags (item : Item) :
    Json.lookup s.tagField (item.payload s) = some (.ints item.tags) :=
  Json.lookup_setMember_self _ _ _

variable {s}

/-- The title is found under its name, unless the names clash. -/
theorem lookup_title (hnames : s.FieldsApart) (item : Item) :
    Json.lookup s.titleField (item.payload s) = some (.str item.title) := by
  have htags : Text.ofString s.titleField ≠ s.tagField := by simpa using hnames.title_ne_tags
  rw [payload, Json.lookup_setMember_of_ne htags, Json.lookup_setMember_self]

/-- So is the id. -/
theorem lookup_id (hnames : s.FieldsApart) (item : Item) :
    Json.lookup "item_id" (item.payload s) = some item.id.toJson := by
  have htags : Text.ofString "item_id" ≠ s.tagField := by simpa using hnames.id_ne_tags
  have htitle : Text.ofString "item_id" ≠ s.titleField := by simpa using hnames.id_ne_title
  rw [payload, Json.lookup_setMember_of_ne htags, Json.lookup_setMember_of_ne htitle,
    Json.lookup, if_pos rfl]

/-- The numbers under the field of the tags are the tags, in order and as often as they stand there. -/
theorem idsAt_payload (item : Item) : Condition.idsAt (item.payload s) s.tagField = item.tags := by
  rw [Condition.idsAt, lookup_tags]
  show (item.tags.map Json.int).filterMap _ = item.tags
  rw [List.filterMap_map]
  exact List.filterMap_some

/-- **An item is read back from its payload** where the fields have different names. -/
theorem ofPayload_payload (hnames : s.FieldsApart) (item : Item) :
    ofPayload s (item.payload s) = .ok item := by
  simp only [ofPayload, lookup_id hnames, lookup_title hnames, lookup_tags, Option.getD_some]
  exact ofJson_toJson item

/-- The payloads of several items come back as these items. -/
theorem listOfPayloads_map (hnames : s.FieldsApart) (items : List Item) :
    listOfPayloads s (items.map (payload s)) = .ok items := by
  induction items with
  | nil => rfl
  | cons item rest ih =>
      rw [List.map_cons, listOfPayloads, ofPayload_payload hnames, ih]
      rfl

/-- A page of payloads of items is the page of these items. -/
theorem page_map (hnames : s.FieldsApart) (total : Nat) (items : List Item) :
    PointStore.page total s (items.map (payload s)) = .ok ⟨total, items⟩ := by
  have hread := listOfPayloads_map hnames items
  have htotal := ItemPage.checkTotal_natCast total items
  rw [PointStore.page, hread]
  exact congrArg (fun made => Except.mapError Fault.rejected made) htotal

/-- An item is read from three members exactly if each of them is read. -/
theorem ofJson_members_iff {id title tags : Json} {item : Item} :
    ofJson (.obj [("item_id", id), ("title", title), ("tag_ids", tags)]) = .ok item ↔
      ItemId.decode id = .accepted item.id ∧ Checked.text title = .accepted item.title ∧
        Checked.list .integer tags = .accepted item.tags := by
  have htitle : ∀ t, Checked.defaulted "title" (.ofString "") .text
      [("item_id", id), ("title", title), ("tag_ids", tags)] = .accepted t ↔
        Checked.text title = .accepted t := fun t => Checked.defaulted_eq_accepted_iff rfl
  have htags : ∀ ns, Checked.defaulted "tag_ids" [] (.list .integer)
      [("item_id", id), ("title", title), ("tag_ids", tags)] = .accepted ns ↔
        Checked.list .integer tags = .accepted ns := fun ns => Checked.defaulted_eq_accepted_iff rfl
  rw [ofJson, Checked.conclude_eq_ok_iff]
  constructor
  · intro h
    obtain ⟨_, _, hrest, hns, rfl⟩ := Checked.seq_eq_accepted_iff.mp h
    obtain ⟨_, _, hfirst, ht, rfl⟩ := Checked.seq_eq_accepted_iff.mp hrest
    obtain ⟨_, hid, rfl⟩ := Checked.fmap_eq_accepted_iff.mp hfirst
    exact ⟨Checked.under_eq_accepted_iff.mp hid, (htitle _).mp ht, (htags _).mp hns⟩
  · intro h
    obtain ⟨hid, ht, hns⟩ := h
    refine Checked.seq_eq_accepted_iff.mpr
      ⟨_, item.tags, Checked.seq_eq_accepted_iff.mpr
        ⟨_, item.title, Checked.fmap_eq_accepted_iff.mpr ⟨item.id, ?_, rfl⟩, ?_, rfl⟩, ?_, rfl⟩
    · exact Checked.required_of_lookup rfl hid
    · exact (htitle _).mpr ht
    · exact (htags _).mpr hns

/-- Tags are no title. -/
theorem ofPayload_ne_ok_of_title_eq_tags (h : s.titleField = s.tagField) (item other : Item) :
    ofPayload s (item.payload s) ≠ .ok other := by
  intro hread
  simp only [ofPayload, h, lookup_tags, Option.getD_some] at hread
  cases (ofJson_members_iff.mp hread).2.1

/-- Tags are no id. -/
theorem ofPayload_ne_ok_of_id_eq_tags (h : "item_id" = s.tagField) (item other : Item) :
    ofPayload s (item.payload s) ≠ .ok other := by
  have hid : Json.lookup "item_id" (item.payload s) = some (.ints item.tags) := by
    rw [h, lookup_tags]
  intro hread
  simp only [ofPayload, hid, Option.getD_some] at hread
  cases (ofJson_members_iff.mp hread).1

/-- **A title is an id**, so an item is read without complaint, but under its title. -/
theorem ofPayload_of_id_eq_title (hsame : "item_id" = s.titleField)
    (htags : "item_id" ≠ s.tagField) (item : Item) :
    ofPayload s (item.payload s) = .ok { item with id := .text item.title } := by
  have hne : Text.ofString "item_id" ≠ s.tagField := by simpa using htags
  have hid : Json.lookup "item_id" (item.payload s) = some (.str item.title) := by
    rw [payload, Json.lookup_setMember_of_ne hne, ← hsame, Json.lookup_setMember_self]
  simp only [ofPayload, ← hsame, hid, lookup_tags, Option.getD_some]
  exact ofJson_members_iff.mpr ⟨rfl, rfl, Checked.list_integer_ints item.tags⟩

/-- So an item whose id is a number is kept under different names only. -/
theorem fieldsApart_of_ofPayload {item : Item} {n : Int} (hid : item.id = .number n)
    (hread : ofPayload s (item.payload s) = .ok item) : s.FieldsApart where
  id_ne_tags h := ofPayload_ne_ok_of_id_eq_tags h item item hread
  title_ne_tags h := ofPayload_ne_ok_of_title_eq_tags h item item hread
  id_ne_title h := by
    by_cases htags : "item_id" = s.tagField
    · exact ofPayload_ne_ok_of_id_eq_tags htags item item hread
    · rw [ofPayload_of_id_eq_title h htags] at hread
      have hids := congrArg Item.id (Except.ok.inj hread)
      rw [hid] at hids
      cases hids

/-- The points of a batch carry the payloads of its items, in their order. -/
theorem map_payload_of_mapM_point {items : List Item} {points : List Point}
    (h : items.mapM (·.point s) = .ok points) :
    points.map Point.payload = items.map (payload s) := by
  induction items generalizing points with
  | nil =>
      cases h
      rfl
  | cons item rest ih =>
      rw [List.mapM_cons] at h
      cases hid : item.id.pointId s.itemNamespace with
      | error f =>
          rw [point, hid] at h
          cases h
      | ok id =>
          cases hrest : rest.mapM (·.point s) with
          | error f =>
              rw [point, hid, hrest] at h
              cases h
          | ok others =>
              rw [point, hid, hrest] at h
              cases h
              exact congrArg (item.payload s :: ·) (ih hrest)

end Item

/-- **Payloads keep items exactly under different names.**  What is read from the payload of an item is
that item, for every item, exactly if the fields of id, title and tags have three different names; and
so it is with every batch of items that is sent as points. -/
theorem payload_keeps_items_iff (s : Settings) :
    ((∀ item, Item.ofPayload s (Item.payload s item) = .ok item) ↔ s.FieldsApart) ∧
      ((∀ items points, items.mapM (Item.point s) = .ok points →
          Item.listOfPayloads s (points.map Point.payload) = .ok items) ↔ s.FieldsApart) := by
  -- a number names a point by itself, so this item can always be sent
  let item : Item := ⟨.number 0, "", []⟩
  constructor
  · constructor
    · intro hread
      exact Item.fieldsApart_of_ofPayload rfl (hread item)
    · exact Item.ofPayload_payload
  · constructor
    · intro hread
      have hlist := hread [item] [⟨.number 0, placeholderVector, item.payload s⟩] rfl
      cases hone : Item.ofPayload s (item.payload s) with
      | error r =>
          rw [List.map_singleton, Item.listOfPayloads, hone] at hlist
          cases hlist
      | ok other =>
          rw [List.map_singleton, Item.listOfPayloads, hone] at hlist
          cases hlist
          exact Item.fieldsApart_of_ofPayload rfl hone
    · intro hnames items points hpoints
      rw [Item.map_payload_of_mapM_point hpoints]
      exact Item.listOfPayloads_map hnames items

end TagSearch
