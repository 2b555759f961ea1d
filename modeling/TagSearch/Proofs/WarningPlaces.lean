import TagSearch.Criterion.Validation
import TagSearch.Proofs.JsonScalars

/-!
# Which criterion a warning is about

A verdict on a list of criteria is put together from the verdicts on each of them.  All that reaches a
caller are texts, so two things have to be known before a text can be held against a criterion.

1.  The verdict on a criterion names its own position and no other, and the verdict on the list loses
    and adds nothing (`mem_warnings_validate_iff`).
2.  Different warnings have different texts (`CriteriaWarning.message_injective`): the position stands in
    brackets, and what follows tells the kind of the warning.

`message_mem_warnings_iff` joins them.
-/

namespace TagSearch

/-- The position of the criterion that a warning is about, if it is about one. -/
def CriteriaWarning.position? : CriteriaWarning → Option Nat
  | .emptyList => none
  | .emptyGroup i | .zeroAmongExclusions i | .duplicates i | .contradiction i | .manyIds i _ => some i

/-- Only the warning about an empty list is about no criterion. -/
theorem CriteriaWarning.position?_eq_none_iff {w : CriteriaWarning} :
    w.position? = none ↔ w = .emptyList := by
  cases w <;> simp [position?]

/-- A warning that depends on a test is given if the test says so. -/
theorem mem_warnIf {test : Bool} {w v : CriteriaWarning} :
    w ∈ warnIf test v ↔ test = true ∧ w = v := by
  cases test <;> simp [warnIf]

/-- The ids in a list of whole numbers are these numbers. -/
theorem Json.tagIds_map_int (ids : List Int) : Json.tagIds (ids.map Json.int) = ids := by
  induction ids with
  | nil => rfl
  | cons n rest ih => exact congrArg (n :: ·) ih

section

variable {w : CriteriaWarning} {i : Nat} {v : Json} {vs : List Json}

/-- What a group of whole numbers is warned about. -/
theorem warnings_validateCriterion_ints (i : Nat) (ids : List Int) :
    (validateCriterion i (Json.ints ids)).warnings =
      if ids.isEmpty then [.emptyGroup i] else groupWarnings i ids := by
  have hgood : (ids.map Json.int).filter (!·.isTagId) = [] := by
    rw [List.filter_eq_nil_iff]
    intro v hv
    obtain ⟨n, _, rfl⟩ := List.mem_map.mp hv
    exact Bool.false_ne_true
  rw [Json.ints, validateCriterion, validateGroup, hgood, List.isEmpty_map, Json.tagIds_map_int]
  split <;> rfl

/-- The warnings about a group have its position. -/
theorem position?_of_mem_groupWarnings {ids : List Int} (h : w ∈ groupWarnings i ids) :
    w.position? = some i := by
  simp only [groupWarnings, List.mem_append, mem_warnIf] at h
  obtain ((⟨-, rfl⟩ | ⟨-, rfl⟩) | ⟨-, rfl⟩) | ⟨-, rfl⟩ := h <;> rfl

/-- So have those about any criterion. -/
theorem position?_of_mem_validateCriterion (h : w ∈ (validateCriterion i v).warnings) :
    w.position? = some i := by
  cases v with
  | arr entries =>
      rw [validateCriterion, validateGroup] at h
      split at h
      · obtain rfl := List.mem_singleton.mp h
        rfl
      · split at h
        · exact position?_of_mem_groupWarnings h
        · cases h
  | _ => cases h

/-- Positions are counted on from the first one, so the induction is over all first ones at once. -/
theorem mem_warnings_validateFrom_iff :
    w ∈ (validateFrom i vs).warnings ↔
      ∃ k v, vs[k]? = some v ∧ w ∈ (validateCriterion (i + k) v).warnings := by
  induction vs generalizing i with
  | nil => simp [validateFrom, Verdict.clean]
  | cons v rest ih =>
      rw [validateFrom, Verdict.append, List.mem_append, ih]
      constructor
      · rintro (hhead | ⟨k, u, hk, hu⟩)
        · exact ⟨0, v, rfl, hhead⟩
        · refine ⟨k + 1, u, hk, ?_⟩
          rwa [← Nat.add_assoc, Nat.add_right_comm]
      · rintro ⟨k, u, hk, hu⟩
        cases k with
        | zero =>
            obtain rfl := Option.some.inj hk
            exact Or.inl hu
        | succ k =>
            refine Or.inr ⟨k, u, hk, ?_⟩
            rwa [Nat.add_right_comm, Nat.add_assoc]

/-- **A warning about a position comes from the criterion there**, whatever stands around it. -/
theorem mem_warnings_validate_iff (hw : w.position? = some i) :
    w ∈ (validate (.arr vs)).warnings ↔
      ∃ v, vs[i]? = some v ∧ w ∈ (validateCriterion i v).warnings := by
  have hlist : w ∉ warnIf vs.isEmpty .emptyList := by
    rw [mem_warnIf]
    rintro ⟨-, rfl⟩
    cases hw
  have hverdict : (validate (.arr vs)).warnings =
      warnIf vs.isEmpty .emptyList ++ (validateFrom 0 vs).warnings := rfl
  rw [hverdict, List.mem_append, or_iff_right hlist, mem_warnings_validateFrom_iff]
  simp only [Nat.zero_add]
  constructor
  · rintro ⟨k, v, hk, hmem⟩
    -- the warning names the position that it comes from
    have hpos := position?_of_mem_validateCriterion hmem
    obtain rfl : i = k := Option.some.inj (hw.symm.trans hpos)
    exact ⟨v, hk, hmem⟩
  · rintro ⟨v, hi, hmem⟩
    exact ⟨i, v, hi, hmem⟩

end

namespace CriteriaWarning

/-- What a warning says behind the number of a position. -/
def remark : CriteriaWarning → String
  | .emptyList => ""
  | .emptyGroup _ => "] is an empty group; it matches every item"
  | .zeroAmongExclusions _ => "] mixes tag 0 with exclusions; 0 is read as an inclusion of tag 0"
  | .duplicates _ => "] has duplicate ids; duplicates are ignored"
  | .contradiction _ => "] both requires and forbids the same tag; the clause always holds"
  | .manyIds _ count => "] has " ++ toString count ++ " distinct ids; query may be slow"

variable {w v : CriteriaWarning} {i j : Nat}

/-- A message is the position and a remark. -/
theorem message_eq (hw : w.position? = some i) : w.message = "tags[" ++ toString i ++ w.remark := by
  cases w with
  | emptyList => cases hw
  | manyIds k count =>
      obtain rfl := Option.some.inj hw
      show "tags[" ++ toString k ++ "] has " ++ toString count ++ " distinct ids; query may be slow" = _
      simp only [remark, String.append_assoc]
  | _ k =>
      obtain rfl := Option.some.inj hw
      rfl

/-- A position is written in decimal digits. -/
theorem toList_toString (n : Nat) : (toString n).toList = Nat.toDigits 10 n :=
  Nat.toList_repr

/-- The number ends at the bracket. -/
theorem endsNumber_remark (hw : w.position? = some i) : Json.EndsNumber w.remark.toList := by
  cases w with
  | emptyList => cases hw
  | _ => simp [remark, Json.EndsNumber, Json.isDigit]

/-- Only a count puts a digit at the seventh place. -/
theorem isDigit_remark : (w.remark.toList.drop 6).head?.any Json.isDigit = true ↔
    ∃ k count, w = .manyIds k count := by
  cases w with
  | manyIds k count =>
      refine iff_of_true ?_ ⟨k, count, rfl⟩
      obtain ⟨c, cs, hdigits, hdigit, -⟩ := Json.toDigits_eq_cons count
      simp [remark, hdigits, hdigit]
  | _ =>
      refine iff_of_false ?_ nofun
      simp [remark, Json.isDigit]

/-- At one position the remark tells which warning it is. -/
theorem eq_of_remark (hw : w.position? = some i) (hv : v.position? = some i)
    (h : w.remark = v.remark) : w = v := by
  have hcount : (∃ k count, w = .manyIds k count) ↔ ∃ k count, v = .manyIds k count := by
    rw [← isDigit_remark, ← isDigit_remark, h]
  by_cases hmany : ∃ k count, w = .manyIds k count
  · obtain ⟨l, n, rfl⟩ := hcount.mp hmany
    obtain ⟨k, m, rfl⟩ := hmany
    obtain rfl := Option.some.inj (hw.trans hv.symm)
    have hlist := congrArg String.toList h
    simp only [remark, String.toList_append, toList_toString, List.append_assoc] at hlist
    have hends : Json.EndsNumber " distinct ids; query may be slow".toList := by
      simp [Json.EndsNumber, Json.isDigit]
    rw [(Json.toDigits_append_inj hends hends (List.append_cancel_left hlist)).1]
  · have hmany' := mt hcount.mpr hmany
    cases w <;> cases v <;> simp_all [remark, position?]

/-- **Different warnings have different texts.** -/
theorem message_injective : Function.Injective message := by
  intro w v h
  have htext := congrArg String.toList h
  cases hw : w.position? with
  | none =>
      obtain rfl := position?_eq_none_iff.mp hw
      cases hv : v.position? with
      | none => exact (position?_eq_none_iff.mp hv).symm
      | some j =>
          rw [message_eq hv] at htext
          simp [message] at htext
  | some i =>
      cases hv : v.position? with
      | none =>
          obtain rfl := position?_eq_none_iff.mp hv
          rw [message_eq hw] at htext
          simp [message] at htext
      | some j =>
          rw [message_eq hw, message_eq hv] at htext
          simp only [String.toList_append, toList_toString, List.append_assoc] at htext
          obtain ⟨rfl, hrest⟩ := Json.toDigits_append_inj (endsNumber_remark hw)
            (endsNumber_remark hv) (List.append_cancel_left htext)
          exact eq_of_remark hw hv (String.toList_inj.mp hrest)

end CriteriaWarning

/-- **What a caller reads about a position**: the text of a warning is in the report on a list of criteria
exactly when the criterion at its position has that warning. -/
theorem message_mem_warnings_iff {w : CriteriaWarning} {i : Nat} {v : Json} {vs : List Json}
    (hw : w.position? = some i) (hi : vs[i]? = some v) :
    w.message ∈ (Report.ofVerdict (validate (.arr vs))).warnings ↔
      w ∈ (validateCriterion i v).warnings := by
  show w.message ∈ (validate (.arr vs)).warnings.map CriteriaWarning.message ↔ _
  constructor
  · intro h
    obtain ⟨u, hu, htext⟩ := List.mem_map.mp h
    obtain rfl := CriteriaWarning.message_injective htext
    obtain ⟨v', hv', hmem⟩ := (mem_warnings_validate_iff hw).mp hu
    obtain rfl := Option.some.inj (hi.symm.trans hv')
    exact hmem
  · intro h
    exact List.mem_map_of_mem ((mem_warnings_validate_iff hw).mpr ⟨v, hi, h⟩)

end TagSearch
