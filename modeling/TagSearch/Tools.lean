import TagSearch.Criterion.Validation
import TagSearch.Invocation
import TagSearch.Json.Printer
import TagSearch.Predicate.Codec
import TagSearch.Predicate.Unchecked
import TagSearch.Search.Service

/-!
# Tools

The three tools that a remote caller can use: compile criteria, validate them, search with them.
Each answers with a JSON text.  Compiling and searching are logged and counted whenever they come to
an answer, and count as failed when the answer is a report of errors.  The answer is written after that,
and what cannot be written is a fault of a call that was counted.
-/

namespace TagSearch

/-- A tool, with its arguments as they came. -/
inductive ToolCall
  | compile (tags : Json)
  | validate (tags : Json)
  | search (tags title page size : Json)

namespace ToolCall

/-- The name of a tool. -/
def name : ToolCall → String
  | .compile _ => "tags_compile"
  | .validate _ => "tags_validate"
  | .search .. => "tags_search"

end ToolCall

/-- What a tool answers. -/
inductive ToolAnswer
  | compiled (p : Predicate) (warnings : List String)
  | report (r : Report)
  | found (r : SearchResponse)

namespace ToolAnswer

/-- Whether an answer says that something was invalid. -/
def isFailure : ToolAnswer → Bool
  | .report r => !r.valid
  | _ => false

/-- The text of an answer, whatever is in it. -/
def toText : ToolAnswer → String
  | .compiled p warnings =>
    Json.spaced (.obj [("predicate", p.toJson), ("text", .str p.describe),
      ("warnings", .strs warnings)])
  | .report r => Json.spaced r.toJson
  | .found r => r.toText

/-- The text of an answer, unless an id in it is too long or a text in it has no encoding. -/
def write : ToolAnswer → Except Fault String
  | .compiled p warnings => ifFitting p.numbers (compiled p warnings).toText
  | .report r => .ok (report r).toText
  | .found r => r.write

end ToolAnswer

/-- A request from its parts, as a caller gives them: criteria first, then the page.  A size of null
is left to the service. -/
def SearchRequest.ofParts (tags title page size : Json) : Except Rejection SearchRequest := do
  let criteria ← (SearchCriteria.decode (.obj [("tags", tags), ("title", title)])).conclude
    "SearchCriteria" .data
  let given : Json.Members := if size matches .null then [] else [("size", size)]
  let metadata ← (PageRequest.decode (.obj (("page", page) :: given))).conclude "PageRequest" .data
  return ⟨some criteria, metadata⟩

/-- A tool call that is over: what it came to before that was written, what was logged, and the
counts. -/
structure ToolRun where
  outcome : Except Fault ToolAnswer
  events : List Event := []
  metrics : Metrics

namespace ToolRun

/-- The text that a call answers with. -/
def text (r : ToolRun) : Except Fault String := r.outcome >>= ToolAnswer.write

/-- The answer of a call, which is one only if it can be written. -/
def answer (r : ToolRun) : Except Fault ToolAnswer :=
  r.outcome >>= fun a => a.write.map fun _ => a

/-- A call is answered with what it came to, if that can be written. -/
theorem answer_eq_ok_iff {r : ToolRun} {a : ToolAnswer} :
    r.answer = .ok a ↔ r.outcome = .ok a ∧ ∃ text, a.write = .ok text := by
  rw [answer]
  constructor
  · intro h
    obtain ⟨b, hb, hwritten⟩ := Scalar.of_bind_eq_ok h
    cases htext : b.write with
    | error f =>
        rw [htext] at hwritten
        cases hwritten
    | ok text =>
        rw [htext] at hwritten
        obtain rfl := Except.ok.inj hwritten
        exact ⟨hb, text, htext⟩
  · rintro ⟨hb, text, htext⟩
    rw [hb]
    show a.write.map _ = _
    rw [htext]
    rfl

/-- A call that ended without being logged. -/
def silent (m : Metrics) (outcome : Except Fault ToolAnswer) : ToolRun :=
  { outcome, metrics := m }

/-- A call that was logged and came to an answer. -/
def logged (m : Metrics) (i : Invocation) (answer : ToolAnswer) : ToolRun :=
  { outcome := .ok answer, events := [i.event], metrics := m.record i }

/-- The answer to criteria that are not valid. -/
def invalidCriteria (m : Metrics) (operation : String) (r : Report) : ToolRun :=
  logged m { operation, error := some "invalid_criteria" } (.report r)

/-- The answer to a request that does not fit. -/
def invalidRequest (m : Metrics) (operation : String) (r : Rejection) : ToolRun :=
  logged m { operation, error := some "invalid_request" }
    (.report { valid := false, errors := r.messages })

end ToolRun

/-- The number of elements of a list. -/
def Json.itemCount : Json → Nat
  | .arr items => items.length
  | _ => 0

/-- Compiles criteria. -/
def compileTool (m : Metrics) (tags : Json) : ToolRun :=
  match (validate tags).report with
  | .error f => .silent m (.error f)
  | .ok report =>
    if !report.valid then .invalidCriteria m "tags_compile" report
    else
      match compileJson tags with
      | .error f => .silent m (.error f)
      | .ok p =>
        .logged m
          { operation := "tags_compile", extra := [("criteria_count", .int tags.itemCount)] }
          (.compiled p report.warnings)

/-- Ends a search that was run. -/
def finishSearch (m : Metrics) (done : Searched) : ToolRun :=
  match done.answer with
  | .error f => { outcome := .error f, events := done.events, metrics := m }
  | .ok response =>
    let run := ToolRun.logged m
      { operation := "tags_search", extra := [("total_items", .int response.metadata.totalItems)] }
      (.found response)
    { run with events := done.events ++ run.events }

/-- Searches with criteria, by whatever runs the request. -/
def searchTool {μ : Type → Type} [Monad μ] (run : SearchRequest → μ Searched) (m : Metrics)
    (tags title page size : Json) : μ ToolRun :=
  match (validate tags).report with
  | .error f => return .silent m (.error f)
  | .ok report =>
    if !report.valid then return .invalidCriteria m "tags_search" report
    else
      match SearchRequest.ofParts tags title page size with
      | .error r => return .invalidRequest m "tags_search" r
      | .ok request => return finishSearch m (← run request)

/-- Runs a tool. -/
def runTool {μ : Type → Type} [Monad μ] (run : SearchRequest → μ Searched) (m : Metrics) :
    ToolCall → μ ToolRun
  | .compile tags => return compileTool m tags
  | .validate tags => return .silent m ((validate tags).report.map .report)
  | .search tags title page size => searchTool run m tags title page size

end TagSearch
