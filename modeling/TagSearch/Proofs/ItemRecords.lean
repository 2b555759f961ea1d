import TagSearch.Proofs.JsonText
import TagSearch.Proofs.SearchFrontEnds

/-!
# Records of items as text

What can get lost of an item between its record and a reader is little.  An id or a title with a surrogate
is never written, and a whole number with too many digits is written but not read.  The rest comes back:
an item whose texts have an encoding has a plain record (`Item.isPlain_toJson`), and the only limit that a
reader meets in it is that of its numbers (`Item.limitFault?_toJson_eq_none_iff`).

`Dialect.Takes` says in numbers which ones a reader takes.  A minus counts like a digit for a strict reader,
so it takes one power of ten less below zero.
-/

namespace TagSearch

namespace Json

/-- A reader takes a whole number: it is not too large. -/
def Dialect.Takes : Dialect → Int → Prop
  | .loose, n => n.natAbs < 10 ^ maxDigits
  | .strict, n => n.natAbs < 10 ^ (maxDigits - (decide (n < 0)).toNat)

variable {d : Dialect}

/-- The first number with one digit more than a reader takes. -/
theorem Dialect.not_takes_pow (d : Dialect) : ¬d.Takes (10 ^ maxDigits) := by
  have hsize : ∀ k : Nat, (10 ^ k : Int).natAbs = 10 ^ k := Int.natAbs_pow 10
  have hroom : ∀ k j : Nat, 10 ^ (k - j) ≤ 10 ^ k := fun k j =>
    Nat.pow_le_pow_right (by decide) (Nat.sub_le k j)
  intro htaken
  cases d with
  | loose => exact Nat.ne_of_lt htaken (hsize _)
  | strict => exact Nat.ne_of_lt (htaken.trans_le (hroom _ _)) (hsize _)

/-- **A whole number has no fault** exactly if the reader takes it. -/
theorem intFault?_eq_none_iff {n : Int} : intFault? d n = none ↔ d.Takes n := by
  have hdigits : ∀ {k : Nat}, 0 < k → ((Nat.toDigits 10 n.natAbs).length ≤ k ↔ n.natAbs < 10 ^ k) :=
    fun hk => Nat.length_toDigits_le_iff (by decide) hk
  have hadmits : intFault? d n = none ↔
      d.admitsDigits (n < 0) true (Nat.toDigits 10 n.natAbs).length = true := by
    simp only [intFault?, digitsFault?, ite_eq_left_iff, reduceCtorEq, imp_false, not_not]
  rw [hadmits]
  cases d with
  | loose =>
      rw [Dialect.admitsDigits, Dialect.Takes, ← hdigits (by decide)]
      simp
  | strict =>
      have hroom : (decide (n < 0)).toNat < maxDigits := by
        cases decide (n < 0) <;> decide
      rw [Dialect.admitsDigits, Dialect.Takes, ← hdigits (Nat.sub_pos_of_lt hroom), decide_eq_true_iff,
        Nat.le_sub_iff_add_le hroom.le]

/-- No reader objects to lists and objects at the first levels. -/
theorem tooDeep_eq_false {level : Nat} {isEmpty : Bool} (h : level < 200) :
    d.tooDeep level isEmpty = false := by
  cases d with
  | loose => exact decide_eq_false (by omega)
  | strict => exact tooDeep_strict_eq_false_iff.mpr (Or.inr h)

/-- A list that is not deep keeps to the limits if its items do. -/
theorem limitFault?_arr_shallow {level : Nat} {items : List Json} (h : level < 200) :
    (arr items).limitFault? d level = none ↔ ∀ v ∈ items, v.limitFault? d (level + 1) = none := by
  rw [limitFault?_arr_eq_none_iff, tooDeep_eq_false h, eq_self, true_and]

/-- So does an object, if the values of its members do. -/
theorem limitFault?_obj_shallow {level : Nat} {members : Members} (h : level < 200) :
    (obj members).limitFault? d level = none ↔
      ∀ v ∈ members.map Prod.snd, v.limitFault? d (level + 1) = none := by
  rw [limitFault?_obj_eq_none_iff, tooDeep_eq_false h, eq_self, true_and]

/-- A list of whole numbers does if each of them does. -/
theorem limitFault?_ints_eq_none_iff {level : Nat} {ns : List Int} (h : level < 200) :
    (ints ns).limitFault? d level = none ↔ ∀ n ∈ ns, d.Takes n := by
  rw [ints, limitFault?_arr_shallow h, List.forall_mem_map]
  simp only [limitFault?, intFault?_eq_none_iff]

/-- The members of a record, under names that are strings. -/
def named (fields : List (String × Json)) : Members :=
  fields.map fun field => (Text.ofString field.1, field.2)

/-- **A record is plain** if its names differ and its values are plain. -/
theorem isPlain_named {fields : List (String × Json)} (hdistinct : (fields.map Prod.fst).Nodup)
    (hvalues : ∀ value ∈ fields.map Prod.snd, value.IsPlain) : (obj (named fields)).IsPlain := by
  have hnames : (named fields).map Prod.fst = (fields.map Prod.fst).map Text.ofString := by
    simp [named, Function.comp_def]
  have hsame : (named fields).map Prod.snd = fields.map Prod.snd := by
    simp [named, Function.comp_def]
  apply IsPlain.obj
  · rw [hnames]
    exact hdistinct.map fun _ _ => Text.ofString_inj.mp
  · rw [hnames, List.forall_mem_map]
    exact fun name _ => ⟨name, rfl⟩
  · rw [hsame]
    exact hvalues

end Json

/-- The whole numbers in an id. -/
def ItemId.numbers : ItemId → List Int
  | .number n => [n]
  | .text _ => []

/-- The whole numbers in an item: its id, if it is one, and the tags. -/
def Item.numbers (item : Item) : List Int := item.id.numbers ++ item.tags

namespace Item

variable {item : Item}

/-- **The record of an item is plain** if id and title have an encoding. -/
theorem isPlain_toJson (h : item.Encodable) : item.toJson.IsPlain := by
  obtain ⟨hid, title, htitle⟩ := h
  have hplain : item.id.toJson.IsPlain := by
    cases hkind : item.id with
    | number n => exact .int n
    | text t =>
        obtain ⟨s, rfl⟩ := hid t hkind
        exact .str s
  have htext : (Json.str item.title).IsPlain := by
    rw [htitle]
    exact .str title
  have hfields : item.toJson = .obj (Json.named [("item_id", item.id.toJson),
      ("title", .str item.title), ("tag_ids", .ints item.tags)]) := rfl
  have hdistinct : ["item_id", "title", "tag_ids"].Nodup := by decide
  rw [hfields]
  refine Json.isPlain_named ?_ ?_
  · exact hdistinct
  · exact List.forall_mem_cons.mpr ⟨hplain, List.forall_mem_cons.mpr
      ⟨htext, List.forall_mem_singleton.mpr (Json.isPlain_ints item.tags)⟩⟩

/-- **A reader takes the record of an item** exactly if it takes the numbers in it. -/
theorem limitFault?_toJson_eq_none_iff {d : Json.Dialect} {level : Nat} (h : level + 1 < 200) :
    item.toJson.limitFault? d level = none ↔ ∀ n ∈ item.numbers, d.Takes n := by
  have hid : item.id.toJson.limitFault? d (level + 1) = none ↔
      ∀ n ∈ item.id.numbers, d.Takes n := by
    cases item.id with
    | number n =>
        simp only [ItemId.toJson, ItemId.numbers, Json.limitFault?, Json.intFault?_eq_none_iff,
          List.forall_mem_singleton]
    | text t => simp only [ItemId.toJson, ItemId.numbers, Json.limitFault?, List.not_mem_nil,
        IsEmpty.forall_iff, implies_true]
  rw [toJson, Json.limitFault?_obj_shallow (Nat.lt_of_succ_lt h), numbers, List.forall_mem_append, ← hid,
    ← Json.limitFault?_ints_eq_none_iff h]
  simp only [List.map_cons, List.map_nil, List.forall_mem_cons, List.not_mem_nil, IsEmpty.forall_iff,
    implies_true, and_true, Json.limitFault?, true_and]

/-! Both are the same of a list of items. -/

variable {items : List Item}

/-- Items that can be encoded are written as a list that can be read back. -/
theorem isPlain_list (h : ∀ item ∈ items, item.Encodable) :
    (Json.arr (items.map toJson)).IsPlain := by
  apply Json.IsPlain.arr
  rw [List.forall_mem_map]
  intro item hitem
  exact isPlain_toJson (h item hitem)

/-- A list of items keeps to the limits if the numbers in them do. -/
theorem limitFault?_list_eq_none_iff {d : Json.Dialect} {level : Nat} (h : level + 2 < 200) :
    (Json.arr (items.map toJson)).limitFault? d level = none ↔
      ∀ item ∈ items, ∀ n ∈ item.numbers, d.Takes n := by
  rw [Json.limitFault?_arr_shallow (by omega), List.forall_mem_map]
  simp only [limitFault?_toJson_eq_none_iff h]

end Item

end TagSearch
