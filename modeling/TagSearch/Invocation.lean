import TagSearch.Fault
import TagSearch.Search.Event

/-!
# Invocations

Every invocation of an operation is logged as one event and counted.  `Metrics` holds the counts: how
often an operation was called, and how often the call failed.
-/

namespace TagSearch

/-- One invocation of an operation. -/
structure Invocation where
  operation : String
  /-- What tells this invocation from others: a trace id, a duration. -/
  stamp : Json.Members := []
  /-- The name of what went wrong; an empty one counts as none. -/
  error : Option String := none
  extra : Json.Members := []

namespace Invocation

/-- What went wrong, if anything did. -/
def failure (i : Invocation) : Option String := i.error.filter (!·.isEmpty)

/-- What there is to know about an invocation; extra fields take the place of others of their
name. -/
def fields (i : Invocation) : Json.Members :=
  let failed : Json.Members :=
    match i.failure with
    | some e => [("error", .str e)]
    | none => []
  let base : Json.Members := ("operation", .str i.operation) :: (i.stamp ++ failed)
  i.extra.foldl (fun fields f => Json.setMember f.1 f.2 fields) base

/-- The event of an invocation. -/
def event (i : Invocation) : Event where
  severity := if i.failure.isSome then .warning else .info
  name := if i.failure.isSome then "invocation_failed" else "invocation"
  fields := i.fields

/-- A number rounded to hundredths; a truth value counts as 0 or 1. -/
def rounded : Json → Except Fault Json
  | .float x => .ok (.float x.roundHundredths)
  | .int n => .ok (.int n)
  | .bool b => .ok (.int (if b then 1 else 0))
  | v => .error (.notRoundable v.kindName)

/-- A trace id and a duration, which is rounded. -/
def timeStamp (traceId duration : Json) : Except Fault Json.Members := do
  return [("trace_id", traceId), ("latency_ms", ← rounded duration)]

/-- The fields that every log record has of its own. -/
def reservedNames : List String :=
  ["name", "msg", "args", "levelname", "levelno", "pathname", "filename", "module", "exc_info",
    "exc_text", "stack_info", "lineno", "funcName", "created", "msecs", "relativeCreated",
    "thread", "threadName", "processName", "process", "message", "asctime"]

/-- The first field that a log record cannot take. -/
def reserved? (i : Invocation) : Option String :=
  (i.fields.filterMap (·.1.toString?)).find? reservedNames.contains

end Invocation

/-- How often something was counted, by name. -/
abbrev Counts := List (String × Nat)

/-- The counts with one more for a name. -/
def Counts.count (name : String) : Counts → Counts
  | [] => [(name, 1)]
  | (key, n) :: rest => if key = name then (key, n + 1) :: rest else (key, n) :: count name rest

/-- The count of a name. -/
def Counts.of (name : String) : Counts → Nat
  | [] => 0
  | (key, n) :: rest => if key = name then n else of name rest

/-- Counting a name changes its count alone. -/
theorem Counts.of_count (counts : Counts) (name other : String) :
    of other (counts.count name) = of other counts + if name = other then 1 else 0 := by
  induction counts with
  | nil => simp [count, of]
  | cons entry rest ih =>
    obtain ⟨key, n⟩ := entry
    by_cases hk : key = name
    · subst hk
      by_cases h : key = other <;> simp [count, of, h]
    · by_cases h : key = other
      · subst h
        simp [count, of, hk, Ne.symm hk]
      · simp [count, of, hk, h, ih]

/-- Calls and failures, by operation. -/
structure Metrics where
  calls : Counts := []
  errors : Counts := []

namespace Metrics

/-- The counts after an invocation. -/
def record (m : Metrics) (i : Invocation) : Metrics where
  calls := m.calls.count i.operation
  errors := if i.failure.isSome then m.errors.count i.operation else m.errors

/-- Counts as members. -/
def countsJson (counts : Counts) : Json := .obj (counts.map fun c => (c.1, .int c.2))

/-- The counts as a record. -/
def toJson (m : Metrics) : Json :=
  .obj [("calls", countsJson m.calls), ("errors", countsJson m.errors)]

end Metrics

/-- Logs an invocation: its event, and the counts after it.  An invocation that cannot be logged is
not counted. -/
def logInvocation (i : Invocation) (m : Metrics) : Except Fault (Event × Metrics) :=
  match i.reserved? with
  | some name => .error (.reservedField name)
  | none => .ok (i.event, m.record i)

end TagSearch
