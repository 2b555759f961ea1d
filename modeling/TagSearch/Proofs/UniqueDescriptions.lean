import TagSearch.Predicate.Basic
import TagSearch.Proofs.JsonScalars

/-!
# A description has one reading

The compact text of a predicate gives no lengths.  Where an id ends, where a child ends, and where the
last one ends has to be seen from the text itself, and a comma stands between ids as well as between
children.

1.  Ids and children are both written as a list: item by item, with a comma between two of them, up to a
    closing mark.  A list can be told from the text behind it if each of its items can
    (`ListStyle.enclosed_inj`).
2.  An id ends at the comma or the brace behind it (`idStyle_tells`).
3.  Predicates open in four ways, none of which starts another, and behind the opening comes a list
    (`Predicate.describeChars_append_inj`, by induction over the tree).

So no description starts another one, and `describe_determines` says that it determines its predicate.
-/

namespace TagSearch

/-- How the items of a list are written one by one. -/
structure ListStyle (α : Type) where
  text : α → List Char
  /-- What is left between two items behind the comma. -/
  pad : List Char
  /-- The mark behind the last item. -/
  close : Char
  close_ne_comma : close ≠ ','
  text_append_ne : ∀ x cs ds, text x ++ cs ≠ close :: ds

namespace ListStyle

variable {α : Type} (s : ListStyle α)

/-- A list, and the text behind it. -/
def enclosed (xs : List α) (rest : List Char) : List Char :=
  (',' :: s.pad).intercalate (xs.map s.text) ++ s.close :: rest

/-- What stands behind an item: more of them, each behind a comma, and the text behind the list. -/
def tail : List α → List Char → List Char
  | [], rest => s.close :: rest
  | x :: xs, rest => ',' :: (s.pad ++ (s.text x ++ tail xs rest))

/-- An item can be told from what stands behind it. -/
def Tells (x : α) : Prop :=
  ∀ y xs ys cs ds, s.text x ++ s.tail xs cs = s.text y ++ s.tail ys ds →
    x = y ∧ s.tail xs cs = s.tail ys ds

variable {s}

/-- A list starts with its first item. -/
theorem enclosed_cons (x : α) (xs : List α) (rest : List Char) :
    s.enclosed (x :: xs) rest = s.text x ++ s.tail xs rest := by
  induction xs generalizing x with
  | nil => simp [enclosed, tail]
  | cons y ys ih =>
      rw [tail, ← ih y]
      simp [enclosed]

variable {xs ys : List α} {cs ds : List Char}

/-- Where each item can be told from what follows it, so can the rest of a list. -/
theorem tail_inj (htells : ∀ x ∈ xs, s.Tells x) (h : s.tail xs cs = s.tail ys ds) :
    xs = ys ∧ cs = ds := by
  induction xs generalizing ys with
  | nil =>
      cases ys with
      | nil => exact ⟨rfl, (List.cons.inj h).2⟩
      | cons y ys => exact absurd (List.cons.inj h).1 s.close_ne_comma
  | cons x xs ih =>
      cases ys with
      | nil => exact absurd (List.cons.inj h).1.symm s.close_ne_comma
      | cons y ys =>
          have hitem := List.append_cancel_left (List.cons.inj h).2
          obtain ⟨rfl, hrest⟩ := htells x List.mem_cons_self y xs ys cs ds hitem
          obtain ⟨rfl, hbehind⟩ := ih (fun z hz => htells z (List.mem_cons_of_mem x hz)) hrest
          exact ⟨rfl, hbehind⟩

/-- **A list can be told from the text behind it** if its items can. -/
theorem enclosed_inj (htells : ∀ x ∈ xs, s.Tells x) (h : s.enclosed xs cs = s.enclosed ys ds) :
    xs = ys ∧ cs = ds := by
  cases xs with
  | nil =>
      cases ys with
      | nil => exact ⟨rfl, (List.cons.inj h).2⟩
      | cons y ys =>
          rw [enclosed_cons] at h
          exact absurd h.symm (s.text_append_ne y _ _)
  | cons x xs =>
      cases ys with
      | nil =>
          rw [enclosed_cons] at h
          exact absurd h (s.text_append_ne x _ _)
      | cons y ys =>
          rw [enclosed_cons, enclosed_cons] at h
          obtain ⟨rfl, hrest⟩ := htells x List.mem_cons_self y xs ys cs ds h
          obtain ⟨rfl, hbehind⟩ := tail_inj (fun z hz => htells z (List.mem_cons_of_mem x hz)) hrest
          exact ⟨rfl, hbehind⟩

end ListStyle

/-- A whole number starts with a digit or a minus. -/
theorem intText_append_ne {c : Char} (hdigit : Json.isDigit c = false) (hminus : c ≠ '-') (n : Int)
    (cs ds : List Char) : intText n ++ cs ≠ c :: ds := by
  cases n with
  | ofNat n => exact Json.toDigits_append_ne_cons hdigit cs ds
  | negSucc n => exact fun h => hminus (List.cons.inj h).1.symm

/-- Ids behind a brace, with bare commas. -/
def idStyle : ListStyle Int where
  text := intText
  pad := []
  close := '\x7d'
  close_ne_comma := by decide
  text_append_ne := intText_append_ne (by decide) (by decide)

/-- Ids can be told from what follows them. -/
theorem idStyle_tells (n : Int) : idStyle.Tells n := by
  have hends : ∀ (ids : List Int) (cs : List Char), Json.EndsNumber (idStyle.tail ids cs) := by
    intro ids cs
    cases ids <;> exact ⟨rfl, by decide, by decide, by decide⟩
  intro m xs ys cs ds h
  exact Json.intText_append_inj (hends xs cs) (hends ys ds) h

namespace Predicate

/-- No description starts with a closing mark. -/
theorem describeChars_append_ne (p : Predicate) (cs ds : List Char) :
    p.describeChars ++ cs ≠ ')' :: ds := by
  cases p with
  | overlaps ids mustOverlap => cases mustOverlap <;> simp [describeChars]
  | all ps => simp [describeChars]
  | any ps => simp [describeChars]

/-- Children behind a parenthesis, with a blank behind each comma. -/
def childStyle : ListStyle Predicate where
  text := describeChars
  pad := [' ']
  close := ')'
  close_ne_comma := by decide
  text_append_ne := describeChars_append_ne

/-- Children are described as a list up to the closing mark. -/
theorem describeList_append (ps : List Predicate) (rest : List Char) :
    describeList ps ++ ')' :: rest = childStyle.enclosed ps rest := by
  cases ps with
  | nil => rfl
  | cons p ps =>
      rw [ListStyle.enclosed_cons]
      induction ps generalizing p with
      | nil => simp [describeList, ListStyle.tail, childStyle]
      | cons q qs ih =>
          rw [ListStyle.tail, ← ih q]
          simp [describeList, childStyle]

/-- How a predicate opens, and what follows up to its end. -/
theorem describeChars_append (p : Predicate) (rest : List Char) :
    p.describeChars ++ rest =
      match p with
      | .overlaps ids true => "OVERLAPS\x7b".toList ++ idStyle.enclosed ids.toList rest
      | .overlaps ids false => "NOT OVERLAPS\x7b".toList ++ idStyle.enclosed ids.toList rest
      | .all ps => "AND(".toList ++ childStyle.enclosed ps rest
      | .any ps => "OR(".toList ++ childStyle.enclosed ps rest := by
  cases p with
  | overlaps ids mustOverlap =>
      cases mustOverlap <;> simp [describeChars, idsText, ListStyle.enclosed, idStyle]
  | all ps => simp [describeChars, ← describeList_append]
  | any ps => simp [describeChars, ← describeList_append]

/-- The ids and the polarity that an overlap is written with. -/
theorem overlaps_append_inj {s t : IdSet} {a b : Bool} {cs ds : List Char}
    (h : (overlaps s a).describeChars ++ cs = (overlaps t b).describeChars ++ ds) :
    overlaps s a = overlaps t b ∧ cs = ds := by
  have hids : idStyle.enclosed s.toList cs = idStyle.enclosed t.toList ds → s = t ∧ cs = ds := by
    intro hlist
    obtain ⟨hsame, hrest⟩ := ListStyle.enclosed_inj (fun n _ => idStyle_tells n) hlist
    refine ⟨IdSet.ext fun x => ?_, hrest⟩
    rw [hsame]
  rw [describeChars_append, describeChars_append] at h
  cases a <;> cases b
  · obtain ⟨rfl, hrest⟩ := hids (List.append_cancel_left h)
    exact ⟨rfl, hrest⟩
  · simp at h
  · simp at h
  · obtain ⟨rfl, hrest⟩ := hids (List.append_cancel_left h)
    exact ⟨rfl, hrest⟩

mutual

/-- **A description can be told from the text behind it.**  The induction is over the first tree; the text
behind is arbitrary, as a child has its siblings there. -/
theorem describeChars_append_inj : ∀ (p q : Predicate) (cs ds : List Char),
    p.describeChars ++ cs = q.describeChars ++ ds → p = q ∧ cs = ds
  | .overlaps s a, .overlaps t b, cs, ds, h => overlaps_append_inj h
  | .all ps, .all qs, cs, ds, h => by
      rw [describeChars_append, describeChars_append] at h
      obtain ⟨rfl, hrest⟩ := ListStyle.enclosed_inj (childStyle_tells ps) (List.append_cancel_left h)
      exact ⟨rfl, hrest⟩
  | .any ps, .any qs, cs, ds, h => by
      rw [describeChars_append, describeChars_append] at h
      obtain ⟨rfl, hrest⟩ := ListStyle.enclosed_inj (childStyle_tells ps) (List.append_cancel_left h)
      exact ⟨rfl, hrest⟩
  | .overlaps s a, .all _, _, _, h | .overlaps s a, .any _, _, _, h | .all _, .overlaps s a, _, _, h
  | .any _, .overlaps s a, _, _, h => by
      rw [describeChars_append, describeChars_append] at h
      cases a <;> simp at h
  | .all _, .any _, _, _, h | .any _, .all _, _, _, h => by
      rw [describeChars_append, describeChars_append] at h
      simp at h

/-- So can each child of a list. -/
theorem childStyle_tells : ∀ (ps : List Predicate), ∀ p ∈ ps, childStyle.Tells p
  | p :: ps, r, hr => by
      rcases List.mem_cons.mp hr with heq | hr
      · intro q xs ys cs ds h
        rw [heq] at h ⊢
        exact describeChars_append_inj p q _ _ h
      · exact childStyle_tells ps r hr

end

end Predicate

/-- **A description determines its predicate**, with the kinds of its nodes, their ids and polarities, and
the order and grouping of all children; and no description starts another. -/
theorem describe_determines (p q : Predicate) :
    (p.describe = q.describe ↔ p = q) ∧ (p.describe.toList <+: q.describe.toList ↔ p = q) := by
  have hstarts : p.describe.toList <+: q.describe.toList → p = q := by
    rintro ⟨rest, h⟩
    rw [Predicate.describe, Predicate.describe, String.toList_ofList, String.toList_ofList] at h
    exact (Predicate.describeChars_append_inj p q rest [] (by rw [h, List.append_nil])).1
  refine ⟨⟨fun h => ?_, congrArg _⟩, ⟨hstarts, ?_⟩⟩
  · rw [h] at hstarts
    exact hstarts List.prefix_rfl
  · rintro rfl
    exact List.prefix_rfl

/-- An empty list shows only in its marks. -/
example :
    (Predicate.any [.all [.overlaps (.ofList [5, -3]) true, .overlaps .empty false], .all []]).describe =
      "OR(AND(OVERLAPS\x7b-3,5\x7d, NOT OVERLAPS\x7b\x7d), AND())" := by
  decide

end TagSearch
