/-!
# Finite sets of ids

A set of ids is its strictly increasing list of members, so that equal sets are equal values and
every text written from a set is in increasing order.
-/

namespace TagSearch

/-- A finite set of whole numbers. -/
structure IdSet where
  /-- The members in increasing order. -/
  toList : List Int
  sorted : toList.Pairwise (· < ·) := by decide
  deriving DecidableEq, Repr

namespace IdSet

/-- Puts a member into an increasing list. -/
def insertSorted (x : Int) : List Int → List Int
  | [] => [x]
  | y :: rest => if x < y then x :: y :: rest else if x = y then y :: rest else y :: insertSorted x rest

/-- The members after an insertion. -/
theorem mem_insertSorted {x y : Int} {xs : List Int} :
    y ∈ insertSorted x xs ↔ y = x ∨ y ∈ xs := by
  induction xs with
  | nil => simp [insertSorted]
  | cons z rest ih =>
    unfold insertSorted
    split
    · simp
    · split
      · rename_i h; subst h; simp
      · simp only [List.mem_cons, ih]; grind

/-- An insertion keeps the order. -/
theorem pairwise_insertSorted {x : Int} {xs : List Int} (h : xs.Pairwise (· < ·)) :
    (insertSorted x xs).Pairwise (· < ·) := by
  induction xs with
  | nil => simp [insertSorted]
  | cons z rest ih =>
    obtain ⟨hz, hrest⟩ := List.pairwise_cons.mp h
    unfold insertSorted
    split
    · rename_i hlt
      exact List.pairwise_cons.mpr
        ⟨fun y hy => (List.mem_cons.mp hy).elim (· ▸ hlt) fun hy => Int.lt_trans hlt (hz y hy), h⟩
    · split
      · exact h
      · refine List.pairwise_cons.mpr ⟨fun y hy => ?_, ih hrest⟩
        rcases mem_insertSorted.mp hy with rfl | hy
        · omega
        · exact hz y hy

/-- The empty set. -/
def empty : IdSet where
  toList := []

/-- The set with one more member. -/
def insert (x : Int) (s : IdSet) : IdSet where
  toList := insertSorted x s.toList
  sorted := pairwise_insertSorted s.sorted

/-- The set of the members of a list. -/
def ofList (xs : List Int) : IdSet := xs.foldr insert empty

/-- No members. -/
def isEmpty (s : IdSet) : Bool := s.toList.isEmpty

/-- Whether some member is among the given tags. -/
def meets (s : IdSet) (tags : List Int) : Bool := s.toList.any tags.contains

/-- A set has exactly the members of the list that it was made from. -/
@[simp]
theorem mem_toList_ofList {x : Int} {xs : List Int} : x ∈ (ofList xs).toList ↔ x ∈ xs := by
  induction xs with
  | nil => simp [ofList, empty]
  | cons y rest ih =>
    simp only [ofList, List.foldr_cons, insert, mem_insertSorted, List.mem_cons] at ih ⊢
    rw [ih]

/-- Two increasing lists with the same members are equal: each starts with the least of them. -/
theorem eq_of_mem_iff {xs ys : List Int} (hx : xs.Pairwise (· < ·)) (hy : ys.Pairwise (· < ·))
    (h : ∀ z, z ∈ xs ↔ z ∈ ys) : xs = ys := by
  induction xs generalizing ys with
  | nil => exact (List.eq_nil_iff_forall_not_mem.mpr fun z hz => by simpa using (h z).mpr hz).symm
  | cons x xs ih =>
    cases ys with
    | nil => simpa using (h x).mp (List.mem_cons_self ..)
    | cons y ys =>
      obtain ⟨hxmin, hxs⟩ := List.pairwise_cons.mp hx
      obtain ⟨hymin, hys⟩ := List.pairwise_cons.mp hy
      have hxy : x = y := by
        have h1 := (h x).mp (List.mem_cons_self ..)
        have h2 := (h y).mpr (List.mem_cons_self ..)
        rcases List.mem_cons.mp h1 with h1 | h1
        · exact h1
        · rcases List.mem_cons.mp h2 with h2 | h2
          · exact h2.symm
          · have := hxmin y h2
            have := hymin x h1
            omega
      subst hxy
      congr 1
      refine ih hxs hys fun z => ?_
      have hz := h z
      simp only [List.mem_cons] at hz
      constructor
      · intro m
        rcases hz.mp (.inr m) with rfl | m'
        · exact absurd (hxmin z m) (Int.lt_irrefl z)
        · exact m'
      · intro m
        rcases hz.mpr (.inr m) with rfl | m'
        · exact absurd (hymin z m) (Int.lt_irrefl z)
        · exact m'

/-- Sets with the same members are equal. -/
@[ext]
theorem ext {s t : IdSet} (h : ∀ x, x ∈ s.toList ↔ x ∈ t.toList) : s = t := by
  obtain ⟨xs, hx⟩ := s
  obtain ⟨ys, hy⟩ := t
  obtain rfl : xs = ys := eq_of_mem_iff hx hy h
  rfl

/-- A set meets a list of tags when they have a member in common. -/
theorem meets_iff {s : IdSet} {tags : List Int} :
    s.meets tags = true ↔ ∃ x ∈ s.toList, x ∈ tags := by
  simp [meets]

end IdSet

end TagSearch
