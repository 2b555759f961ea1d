import Mathlib.Data.List.Forall2
import TagSearch.Proofs.CriteriaReading

/-!
# When criteria compile to one tree

Compiling forgets how a criterion is written: the order of its ids, how often each is there, and
whether a single id stands alone or in a group.  It forgets nothing else.

1.  A clause can be read off its predicate, whatever shape that has (`Clause.clause_predicate`).
2.  Two criteria have one clause exactly when they have the same signed ids
    (`Criterion.clause_eq_iff`): zero is an id like others, and an id and its negation go to
    different sets.
3.  Trees are compared node by node and only down to a limit.  Comparing a tree that stays within it
    decides equality (`Predicate.equalWithin_eq_decide`), and compiled trees do
    (`Predicate.height_compile_le`).

`compiled_same_iff` is the main theorem.
-/

namespace TagSearch

namespace Predicate

mutual

/-- How many nodes stand inside each other, a leaf counting as one. -/
def height : Predicate → Nat
  | .overlaps .. => 1
  | .all children | .any children => listHeight children + 1

/-- The height of the highest of several predicates. -/
def listHeight : List Predicate → Nat
  | [] => 0
  | p :: rest => max (height p) (listHeight rest)

end

/-- A list is as high as the highest predicate in it. -/
theorem listHeight_le_iff {ps : List Predicate} {n : Nat} :
    listHeight ps ≤ n ↔ ∀ p ∈ ps, p.height ≤ n := by
  induction ps with
  | nil => simp [listHeight]
  | cons p rest ih => rw [listHeight, Nat.max_le, ih, List.forall_mem_cons]

mutual

/-- **Comparing decides equality** where there is room for one of the two trees.  Different kinds of
nodes are told apart without any room, so the other tree may be higher. -/
theorem equalWithin_eq_decide : ∀ (p q : Predicate) (room : Nat), p.height ≤ room →
    equalWithin room p q = some (decide (p = q))
  | .overlaps s a, .overlaps t b, room, h => by
      have hroom : room ≠ 0 := by
        rw [height] at h
        omega
      simp [equalWithin, hroom]
  | .all ps, .all qs, room, h => by
      rw [height] at h
      have hchildren := listEqualWithin_eq_decide ps qs (room - 1) (by omega)
      simp [equalWithin, show room ≠ 0 by omega, hchildren]
  | .any ps, .any qs, room, h => by
      rw [height] at h
      have hchildren := listEqualWithin_eq_decide ps qs (room - 1) (by omega)
      simp [equalWithin, show room ≠ 0 by omega, hchildren]
  | .overlaps .., .all _, _, _ | .overlaps .., .any _, _, _ | .all _, .overlaps .., _, _
  | .all _, .any _, _, _ | .any _, .overlaps .., _, _ | .any _, .all _, _, _ => by
      simp [equalWithin]

/-- Likewise for lists of predicates. -/
theorem listEqualWithin_eq_decide : ∀ (ps qs : List Predicate) (room : Nat),
    listHeight ps ≤ room → listEqualWithin room ps qs = some (decide (ps = qs))
  | [], [], _, _ => rfl
  | [], _ :: _, _, _ | _ :: _, [], _, _ => rfl
  | p :: ps, q :: qs, room, h => by
      rw [listHeight] at h
      have hhead := equalWithin_eq_decide p q room (by omega)
      have htail := listEqualWithin_eq_decide ps qs room (by omega)
      rw [listEqualWithin, hhead]
      by_cases heq : p = q
      · simp [heq, htail]
      · simp [heq]

end

/-- Compiled criteria are far from the limit of a comparison. -/
theorem height_compile_le (criteria : List Criterion) :
    (compile criteria).height ≤ maxCompared := by
  have hclause : ∀ c : Clause, c.predicate.height ≤ 2 := by
    intro c
    unfold Clause.predicate
    split
    · split <;> simp [height]
    · simp [height, listHeight]
  have hchildren : listHeight (criteria.map Criterion.predicate) ≤ 2 := by
    rw [listHeight_le_iff]
    intro p hp
    obtain ⟨c, _, rfl⟩ := List.mem_map.mp hp
    exact hclause c.clause
  rw [compile, height, maxCompared]
  omega

end Predicate

/-- The three forms of a clause's predicate. -/
theorem Clause.predicate_eq (c : Clause) :
    c.predicate =
      if c.mustHave.isEmpty then .overlaps c.mustNot false
      else if c.mustNot.isEmpty then .overlaps c.mustHave true
      else .any [.overlaps c.mustHave true, .overlaps c.mustNot false] := by
  unfold predicate shape
  cases c.mustHave.isEmpty <;> cases c.mustNot.isEmpty <;> rfl

/-- The clause behind a predicate of one of these forms.  A set that it does not show is empty. -/
def Predicate.clause : Predicate → Clause
  | .overlaps ids true => ⟨ids, .empty⟩
  | .overlaps ids false => ⟨.empty, ids⟩
  | .any [.overlaps required true, .overlaps forbidden false] => ⟨required, forbidden⟩
  | _ => ⟨.empty, .empty⟩

/-- There is one set without members. -/
theorem IdSet.eq_empty_of_isEmpty {s : IdSet} (h : s.isEmpty = true) : s = .empty := by
  ext x
  exact iff_of_false (IdSet.isEmpty_iff.mp h x) List.not_mem_nil

/-- **A predicate tells its clause.**  Where only one set has members, the polarity of the overlap says
which; where neither has, both are empty. -/
theorem Clause.clause_predicate (c : Clause) : c.predicate.clause = c := by
  obtain ⟨required, forbidden⟩ := c
  rw [predicate_eq]
  split
  · rename_i hrequired
    obtain rfl := IdSet.eq_empty_of_isEmpty hrequired
    rfl
  · split
    · rename_i hforbidden
      obtain rfl := IdSet.eq_empty_of_isEmpty hforbidden
      rfl
    · rfl

namespace Criterion

/-- Two criteria have the same signed ids, in whatever order and number, a single id counting as the
group of it. -/
def SameIds (c d : Criterion) : Prop := ∀ v, v ∈ c.signedIds ↔ v ∈ d.signedIds

/-- Criteria have the same clause exactly if they have the same signed ids. -/
theorem clause_eq_iff {c d : Criterion} : c.clause = d.clause ↔ c.SameIds d := by
  constructor
  · intro h v
    -- an id that is not negative shows in the required set, a negative one in the other
    by_cases hv : 0 ≤ v
    · have hc := mem_mustHave_iff (c := c) (x := v)
      rw [h, mem_mustHave_iff] at hc
      simpa [hv] using hc.symm
    · have hc := mem_mustNot_iff (c := c) (x := -v)
      rw [h, mem_mustNot_iff] at hc
      have hpos : 0 < -v := by omega
      rw [and_iff_left hpos, and_iff_left hpos, Int.neg_neg] at hc
      exact hc.symm
  · intro h
    have hhave : c.clause.mustHave = d.clause.mustHave := by
      ext x
      rw [mem_mustHave_iff, mem_mustHave_iff, h x]
    have hnot : c.clause.mustNot = d.clause.mustNot := by
      ext x
      rw [mem_mustNot_iff, mem_mustNot_iff, h (-x)]
    show Clause.mk c.clause.mustHave c.clause.mustNot = ⟨d.clause.mustHave, d.clause.mustNot⟩
    rw [hhave, hnot]

/-- The predicate of a criterion tells its clause, and so its signed ids. -/
theorem predicate_eq_iff {c d : Criterion} : c.predicate = d.predicate ↔ c.SameIds d :=
  (Function.LeftInverse.injective Clause.clause_predicate).eq_iff.trans clause_eq_iff

end Criterion

/-- Lists of criteria compile to the same exactly if they agree place by place. -/
theorem compile_eq_iff {cs ds : List Criterion} :
    compile cs = compile ds ↔ List.Forall₂ Criterion.SameIds cs ds := by
  rw [compile, compile, Predicate.all.injEq, ← List.forall₂_eq_eq_eq, List.forall₂_map_left_iff,
    List.forall₂_map_right_iff]
  simp only [Criterion.predicate_eq_iff]

/-- **Compiled trees identify criteria up to the sets of their ids.**  Two lists of criteria, handed over
as unchecked data, both compile, and their trees can be compared.  The trees are the same exactly when
the lists have one length and, position by position, the same signed ids. -/
theorem compiled_same_iff (cs ds : List Criterion) :
    ∃ p q answer,
      compileJson (Criterion.listToJson cs) = .ok p ∧
      compileJson (Criterion.listToJson ds) = .ok q ∧
      (Operand.tree p).sameAs (.tree q) = .ok answer ∧
      (answer = true ↔ p = q) ∧
      (p = q ↔ List.Forall₂ Criterion.SameIds cs ds) := by
  refine ⟨compile cs, compile ds, decide (compile cs = compile ds), compileJson_listToJson cs,
    compileJson_listToJson ds, ?_, decide_eq_true_iff, compile_eq_iff⟩
  rw [Operand.sameAs, Predicate.equalWithin_eq_decide _ _ _ (Predicate.height_compile_le cs)]

/-- Order, repetition and the group around a single id go; zero and the sign stay. -/
example : compile [.tag 5, .group [0, -7, 0, 3]] = compile [.group [5, 5], .group [3, -7, 0]] ∧
    compile [.group []] ≠ compile [.tag 0] ∧ compile [.group [7, -7]] ≠ compile [.tag 7] := by
  decide

end TagSearch
