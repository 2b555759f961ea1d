import TagSearch.Criterion.Basic
import TagSearch.Fault
import TagSearch.Json.Display

/-!
# Validating criteria

`validate` takes any JSON value in place of criteria and says what is wrong with it and what is
merely odd.  Null stands for no criteria and is valid.  Every bad criterion gives one error; a group
of whole numbers gives a warning for each oddity it has.
-/

namespace TagSearch

/-- Why criteria are refused. -/
inductive CriteriaError
  /-- The criteria are not a list. -/
  | notList (kind : String)
  /-- The criterion at a position is neither a whole number nor a list. -/
  | notCriterion (position : Nat) (kind : String)
  /-- The group at a position has entries that are no whole numbers. -/
  | badEntries (position : Nat) (entries : List Json)
  deriving Repr

/-- What is odd about criteria that are accepted. -/
inductive CriteriaWarning
  | emptyList
  | emptyGroup (position : Nat)
  /-- Tag 0 stands in a group with forbidden tags, although zero has no sign to forbid it with. -/
  | zeroAmongExclusions (position : Nat)
  | duplicates (position : Nat)
  /-- A group requires and forbids one tag. -/
  | contradiction (position : Nat)
  | manyIds (position count : Nat)
  deriving DecidableEq, Repr

/-- An error in words. -/
def CriteriaError.message : CriteriaError → String
  | .notList kind => "tags must be a list, got " ++ kind
  | .notCriterion i kind => s!"tags[{i}] must be an integer or a list of integers, got " ++ kind
  | .badEntries i entries =>
    s!"tags[{i}] contains non-integer entries: " ++ (Json.arr entries).display

/-- The whole numbers in the values that an error shows. -/
def CriteriaError.numbers : CriteriaError → List Int
  | .badEntries _ entries => (Json.arr entries).numbers
  | _ => []

/-- A warning in words. -/
def CriteriaWarning.message : CriteriaWarning → String
  | .emptyList => "tags is an empty list; no tag filter will apply"
  | .emptyGroup i => s!"tags[{i}] is an empty group; it matches every item"
  | .zeroAmongExclusions i =>
    s!"tags[{i}] mixes tag 0 with exclusions; 0 is read as an inclusion of tag 0"
  | .duplicates i => s!"tags[{i}] has duplicate ids; duplicates are ignored"
  | .contradiction i =>
    s!"tags[{i}] both requires and forbids the same tag; the clause always holds"
  | .manyIds i count => s!"tags[{i}] has {count} distinct ids; query may be slow"

/-- All that validation has to say. -/
structure Verdict where
  errors : List CriteriaError := []
  warnings : List CriteriaWarning := []
  deriving Repr

namespace Verdict

/-- Nothing to say. -/
def clean : Verdict := {}

/-- One error. -/
def error (e : CriteriaError) : Verdict := { errors := [e] }

/-- Warnings alone. -/
def warn (ws : List CriteriaWarning) : Verdict := { warnings := ws }

/-- What one verdict says, then what another one says. -/
def append (v w : Verdict) : Verdict where
  errors := v.errors ++ w.errors
  warnings := v.warnings ++ w.warnings

/-- Criteria are valid when nothing is wrong with them. -/
def isValid (v : Verdict) : Bool := v.errors.isEmpty

end Verdict

/-- Whether a value can be a tag id. -/
def Json.isTagId : Json → Bool
  | .int _ => true
  | _ => false

/-- The whole numbers among values. -/
def Json.tagIds (vs : List Json) : List Int :=
  vs.filterMap fun v =>
    match v with
    | .int n => some n
    | _ => none

/-- A warning that is given if a test says so. -/
def warnIf (test : Bool) (w : CriteriaWarning) : List CriteriaWarning := if test then [w] else []

/-- The number of different magnitudes of a group, zero not counted. -/
def magnitudeCount (ids : List Int) : Nat :=
  (IdSet.ofList ((ids.filter (· ≠ 0)).map fun id => (id.natAbs : Int))).toList.length

/-- The oddities of a group of whole numbers with at least one member. -/
def groupWarnings (position : Nat) (ids : List Int) : List CriteriaWarning :=
  warnIf (ids.contains 0 && ids.any (· < 0)) (.zeroAmongExclusions position)
    ++ warnIf (!decide ids.Nodup) (.duplicates position)
    ++ warnIf (ids.any fun id => 0 < id && ids.contains (-id)) (.contradiction position)
    ++ warnIf (1000 < magnitudeCount ids) (.manyIds position (magnitudeCount ids))

/-- The verdict on a group. -/
def validateGroup (position : Nat) (entries : List Json) : Verdict :=
  if entries.isEmpty then .warn [.emptyGroup position]
  else
    match entries.filter (!·.isTagId) with
    | [] => .warn (groupWarnings position (Json.tagIds entries))
    | bad => .error (.badEntries position bad)

/-- The verdict on a criterion. -/
def validateCriterion (position : Nat) : Json → Verdict
  | .int _ => .clean
  | .arr entries => validateGroup position entries
  | v => .error (.notCriterion position v.kindName)

/-- The verdicts on the criteria from a position on. -/
def validateFrom : (position : Nat) → List Json → Verdict
  | _, [] => .clean
  | i, v :: rest => (validateCriterion i v).append (validateFrom (i + 1) rest)

/-- The verdict on a value in place of criteria. -/
def validate : Json → Verdict
  | .null => .clean
  | .arr criteria =>
    Verdict.append (.warn (warnIf criteria.isEmpty .emptyList)) (validateFrom 0 criteria)
  | v => .error (.notList v.kindName)

/-- A verdict as it is answered: texts, and whether the criteria are valid. -/
structure Report where
  valid : Bool
  errors : List String := []
  warnings : List String := []
  deriving DecidableEq, Repr

namespace Report

/-- A verdict in words. -/
def ofVerdict (v : Verdict) : Report where
  valid := v.isValid
  errors := v.errors.map (·.message)
  warnings := v.warnings.map (·.message)

/-- One more error, which makes the report an invalid one. -/
def addError (r : Report) (text : String) : Report :=
  { r with errors := r.errors ++ [text], valid := false }

/-- One more warning. -/
def addWarning (r : Report) (text : String) : Report := { r with warnings := r.warnings ++ [text] }

/-- A report as a record. -/
def toJson (r : Report) : Json :=
  .obj [("valid", .bool r.valid), ("errors", .strs r.errors), ("warnings", .strs r.warnings)]

end Report

/-- The report on a verdict, unless a value that it shows has a number too long to be written. -/
def Verdict.report (v : Verdict) : Except Fault Report :=
  ifFitting (v.errors.flatMap CriteriaError.numbers) (.ofVerdict v)

end TagSearch
