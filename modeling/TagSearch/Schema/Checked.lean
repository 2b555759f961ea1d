import TagSearch.Schema.Issue
import TagSearch.Json.Basic

/-!
# Reading with all faults collected

`Checked α` is a value of `α`, or every issue that stands in the way of one.  Parts are put together
with `<*>`, which reads both sides before it gives up; so a record reports the issues of all of its
fields, in the order of the fields, and a list those of all of its items.
-/

namespace TagSearch

/-- A value, or the issues found. -/
inductive Checked (α : Type)
  | accepted (a : α)
  | refused (issues : List Issue)
  deriving DecidableEq, Repr

namespace Checked

variable {α β : Type}

/-- Applies a function to an accepted value. -/
def map (f : α → β) : Checked α → Checked β
  | .accepted a => .accepted (f a)
  | .refused issues => .refused issues

/-- Puts two checks together, with the issues of both. -/
def ap : Checked (α → β) → Checked α → Checked β
  | .accepted f, .accepted a => .accepted (f a)
  | .accepted _, .refused issues => .refused issues
  | .refused issues, .accepted _ => .refused issues
  | .refused first, .refused second => .refused (first ++ second)

instance : Applicative Checked where
  pure := .accepted
  map := map
  seq f a := ap f (a ())

/-- A single issue with the value itself. -/
def fail (cause : Cause) : Checked α := .refused [⟨[], cause⟩]

/-- A check of a value without parts. -/
def ofCause : Except Cause α → Checked α
  | .ok a => .accepted a
  | .error cause => fail cause

/-- The check of a part, seen from the whole. -/
def under (step : Step) : Checked α → Checked α
  | .accepted a => .accepted a
  | .refused issues => .refused (issues.map (Issue.under step))

/-- The items of a list from a position on. -/
def each (item : Json → Checked α) : (position : Nat) → List Json → Checked (List α)
  | _, [] => .accepted []
  | i, v :: rest => ap (map List.cons (under (.position i) (item v))) (each item (i + 1) rest)

/-- A list, item by item. -/
def list (item : Json → Checked α) : Json → Checked (List α)
  | .arr items => each item 0 items
  | _ => fail .notList

/-- The value, or null. -/
def nullable (read : Json → Checked α) : Json → Checked (Option α)
  | .null => .accepted none
  | v => map some (read v)

/-- A member that has to be there. -/
def required (name : String) (read : Json → Checked α) (members : Json.Members) :
    Checked α :=
  match Json.lookup name members with
  | some v => under (.name name) (read v)
  | none => under (.name name) (fail .missing)

/-- A member that may be absent. -/
def optional (name : String) (read : Json → Checked α) (members : Json.Members) :
    Checked (Option α) :=
  match Json.lookup name members with
  | some v => under (.name name) (map some (read v))
  | none => .accepted none

/-- A member that has a value of its own when it is absent. -/
def defaulted (name : String) (default : α) (read : Json → Checked α)
    (members : Json.Members) : Checked α :=
  map (·.getD default) (optional name read members)

/-- A record: an object whose members are read. -/
def record (name : String) (fields : Json.Members → Checked α) : Json → Checked α
  | .obj members => fields members
  | _ => fail (.notRecord name)

/-- The outcome of reading a value as the named type. -/
def conclude (subject : String) (source : Source) : Checked α → Except Rejection α
  | .accepted a => .ok a
  | .refused issues => .error ⟨subject, source, issues⟩

/-- A value that was changed was accepted before. -/
@[simp] theorem map_eq_accepted_iff {f : α → β} {x : Checked α} {b : β} :
    map f x = .accepted b ↔ ∃ a, x = .accepted a ∧ f a = b := by
  cases x <;> simp [map]

/-- The same for the applicative's own change. -/
@[simp] theorem fmap_eq_accepted_iff {f : α → β} {x : Checked α} {b : β} :
    f <$> x = .accepted b ↔ ∃ a, x = .accepted a ∧ f a = b :=
  map_eq_accepted_iff

/-- Two checks put together accept only what both accept. -/
@[simp] theorem seq_eq_accepted_iff {f : Checked (α → β)} {x : Checked α} {b : β} :
    f <*> x = .accepted b ↔ ∃ g a, f = .accepted g ∧ x = .accepted a ∧ g a = b := by
  show ap f x = .accepted b ↔ _
  cases f <;> cases x <;> simp [ap]

/-- A part is accepted as it would be by itself. -/
@[simp] theorem under_eq_accepted_iff {step : Step} {x : Checked α} {a : α} :
    under step x = .accepted a ↔ x = .accepted a := by
  cases x <;> simp [under]

/-- An outcome without a cause is accepted. -/
@[simp] theorem ofCause_eq_accepted_iff {x : Except Cause α} {a : α} :
    ofCause x = .accepted a ↔ x = .ok a := by
  cases x <;> simp [ofCause, fail]

/-- A member that is accepted is absent or was read. -/
theorem of_optional_eq_accepted {name : String} {read : Json → Checked α} {members : Json.Members}
    {a : Option α} (h : optional name read members = .accepted a) :
    a = none ∨ ∃ v b, read v = .accepted b ∧ a = some b := by
  unfold optional at h
  split at h
  · rename_i v _
    obtain ⟨b, hread, rfl⟩ := map_eq_accepted_iff.mp (under_eq_accepted_iff.mp h)
    exact Or.inr ⟨v, b, hread, rfl⟩
  · cases h
    exact Or.inl rfl

/-- A member with a value for its absence has that value or was read. -/
theorem of_defaulted_eq_accepted {name : String} {default a : α} {read : Json → Checked α}
    {members : Json.Members} (h : defaulted name default read members = .accepted a) :
    a = default ∨ ∃ v, read v = .accepted a := by
  obtain ⟨found, hfound, rfl⟩ := map_eq_accepted_iff.mp h
  rcases of_optional_eq_accepted hfound with rfl | ⟨v, b, hread, rfl⟩
  · exact Or.inl rfl
  · exact Or.inr ⟨v, hread⟩

/-- A member that has to be there is, and was read. -/
theorem of_required_eq_accepted {name : String} {read : Json → Checked α} {members : Json.Members}
    {a : α} (h : required name read members = .accepted a) :
    ∃ v, Json.lookup name members = some v ∧ read v = .accepted a := by
  unfold required at h
  split at h
  · rename_i v hlookup
    exact ⟨v, hlookup, under_eq_accepted_iff.mp h⟩
  · cases h

/-- Only an object is accepted as a record. -/
theorem of_record_eq_accepted {name : String} {fields : Json.Members → Checked α} {v : Json} {a : α}
    (h : record name fields v = .accepted a) :
    ∃ members, v = .obj members ∧ fields members = .accepted a := by
  cases v with
  | obj members => exact ⟨members, rfl, h⟩
  | _ => cases h

/-- What is concluded well was accepted. -/
theorem conclude_eq_ok_iff {subject : String} {source : Source} {x : Checked α} {a : α} :
    x.conclude subject source = .ok a ↔ x = .accepted a := by
  cases x <;> simp [conclude]

/-- A member that is there and fits is accepted. -/
theorem required_of_lookup {name : String} {read : Json → Checked α} {members : Json.Members}
    {v : Json} {a : α} (hlookup : Json.lookup name members = some v) (hread : read v = .accepted a) :
    required name read members = .accepted a := by
  rw [required, hlookup]
  exact under_eq_accepted_iff.mpr hread

/-- Where a field with a default is given, its value alone decides. -/
theorem defaulted_eq_accepted_iff {name : String} {default a : α} {read : Json → Checked α}
    {members : Json.Members} {v : Json} (hlookup : Json.lookup name members = some v) :
    defaulted name default read members = .accepted a ↔ read v = .accepted a := by
  rw [defaulted, optional, hlookup, map_eq_accepted_iff]
  simp only [under_eq_accepted_iff, map_eq_accepted_iff]
  constructor
  · rintro ⟨_, ⟨b, hread, rfl⟩, rfl⟩
    exact hread
  · intro hread
    exact ⟨some a, ⟨a, hread, rfl⟩, rfl⟩

/-- The same for a member that has a value for its absence. -/
theorem defaulted_of_lookup {name : String} {default a : α} {read : Json → Checked α}
    {members : Json.Members} {v : Json} (hlookup : Json.lookup name members = some v)
    (hread : read v = .accepted a) : defaulted name default read members = .accepted a :=
  (defaulted_eq_accepted_iff hlookup).mpr hread

/-- A list whose items are read back one by one is read back. -/
theorem each_map {read : Json → Checked α} {write : α → Json}
    (hread : ∀ a, read (write a) = .accepted a) (i : Nat) (as : List α) :
    each read i (as.map write) = .accepted as := by
  induction as generalizing i with
  | nil => rfl
  | cons a rest ih =>
      rw [List.map_cons, each, hread a, ih (i + 1)]
      rfl

/-- A reader that accepts only what is written accepts only lists of what is written. -/
theorem each_eq_accepted_iff {read : Json → Checked α} {write : α → Json}
    (hread : ∀ v a, read v = .accepted a ↔ v = write a) {i : Nat} {vs : List Json} {as : List α} :
    each read i vs = .accepted as ↔ vs = as.map write := by
  constructor
  · intro h
    induction vs generalizing i as with
    | nil =>
        cases h
        rfl
    | cons v rest ih =>
        obtain ⟨_, tail, hhead, htail, rfl⟩ := seq_eq_accepted_iff.mp h
        obtain ⟨a, ha, rfl⟩ := map_eq_accepted_iff.mp hhead
        rw [List.map_cons, (hread v a).mp (under_eq_accepted_iff.mp ha), ih htail]
  · rintro rfl
    exact each_map (fun a => (hread (write a) a).mpr rfl) i as

end Checked

end TagSearch
