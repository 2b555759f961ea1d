import TagSearch.Schema.Scalar

/-!
# Items

An item is what a search finds: an id, a title and the tags attached to it.  The id is a whole
number or a text, and the number 5 and the text "5" are different ids.  Title and id may be texts that
have no encoding.
-/

namespace TagSearch

/-- What identifies an item. -/
inductive ItemId
  | number (n : Int)
  | text (t : Text)
  deriving DecidableEq, Repr

/-- A searchable item. -/
structure Item where
  id : ItemId
  title : Text := ""
  tags : List Int := []
  deriving DecidableEq, Repr

namespace ItemId

/-- An id as JSON. -/
def toJson : ItemId → Json
  | .number n => .int n
  | .text t => .str t

/-- A text is an id as it stands; anything else has to count as a whole number.  A value that is
neither is reported once for each. -/
def decode : Json → Checked ItemId
  | .str t => .accepted (.text t)
  | v =>
    match Scalar.integer v with
    | .ok n => .accepted (.number n)
    | .error cause => .refused [⟨[.name "int"], cause⟩, ⟨[.name "str"], .notString⟩]

/-- An id is read back, as the kind it is. -/
@[simp] theorem decode_toJson (id : ItemId) : decode id.toJson = .accepted id := by
  cases id <;> rfl

end ItemId

namespace Item

/-- An item as a record. -/
def toJson (item : Item) : Json :=
  .obj [("item_id", item.id.toJson), ("title", .str item.title), ("tag_ids", .ints item.tags)]

/-- The members of an item. -/
def fields (members : Json.Members) : Checked Item :=
  Item.mk <$> .required "item_id" ItemId.decode members
    <*> .defaulted "title" "" .text members
    <*> .defaulted "tag_ids" [] (.list .integer) members

/-- An item from a record; only the id has to be there. -/
def decode : Json → Checked Item := .record "ItemRecord" fields

/-- An item from a record, or why there is none. -/
def ofJson (v : Json) : Except Rejection Item := (decode v).conclude "ItemRecord" .data

/-- An item is read back from its record. -/
@[simp] theorem decode_toJson (item : Item) : decode item.toJson = .accepted item := by
  refine Checked.seq_eq_accepted_iff.mpr
    ⟨_, item.tags, Checked.seq_eq_accepted_iff.mpr
      ⟨_, item.title, Checked.fmap_eq_accepted_iff.mpr ⟨item.id, ?_, rfl⟩, ?_, rfl⟩, ?_, rfl⟩
  · exact Checked.required_of_lookup rfl (ItemId.decode_toJson item.id)
  · exact Checked.defaulted_of_lookup rfl rfl
  · exact Checked.defaulted_of_lookup rfl (Checked.list_integer_ints item.tags)

/-- The same for an item that is read by itself. -/
@[simp] theorem ofJson_toJson (item : Item) : ofJson item.toJson = .ok item := by
  rw [ofJson, decode_toJson]
  rfl

end Item

end TagSearch
