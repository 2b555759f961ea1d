import TagSearch.Proofs.CriteriaGates
import TagSearch.Proofs.SearchFrontEnds

/-!
# Counts of invocations are the history

Tools are called one after the other, with one store behind them that may do anything between two searches
and may fail in any of them.  What is counted has to be what has happened.

1.  `CallEnd` lists what a call can come to, and what it does to the counts then; `runTool_end` says that
    nothing else happens.
2.  What a call came to is written after it was counted, and there are two reasons why that fails
    (`Unwritten`, `runTool_unwritten`).
3.  One more call keeps the counts equal to the history (`Metrics.CountsOf.step`).
4.  So does a whole run, whose calls follow each other (`runTools_follow`, `Metrics.CountsOf.follow`).

`invocation_counts_are_history` is about the counts after every call of a run.  What cannot be written comes
too late: the call was counted before.
-/

namespace TagSearch

/-- A tool call that is over: what was called, and what it came to. -/
structure PastCall where
  call : ToolCall
  run : ToolRun

namespace PastCall

/-- Whether a call of a tool came to an answer. -/
def isAnswered (tool : String) (p : PastCall) : Bool := p.call.name == tool && p.run.answer.isOk

/-- Whether a call of a tool came to an answer that says that something was invalid. -/
def isFailed (tool : String) (p : PastCall) : Bool :=
  p.call.name == tool && p.run.answer.toOption.any ToolAnswer.isFailure

/-- Whether a call of a tool came to something that could not be written. -/
def isUnwritten (tool : String) (p : PastCall) : Bool :=
  p.call.name == tool && p.run.outcome.isOk && !p.run.answer.isOk

section

variable {tool : String} {p : PastCall} {a : ToolAnswer} {f : Fault}

/-- What a call came to is its answer, or it could not be written. -/
theorem answered_or_unwritten (h : p.run.outcome = .ok a) :
    ((if p.isAnswered tool then 1 else 0) + if p.isUnwritten tool then 1 else 0) =
      if p.call.name = tool then 1 else 0 := by
  have hok : p.run.outcome.isOk = true := by
    rw [h]
    rfl
  rw [isAnswered, isUnwritten, hok]
  by_cases hname : p.call.name = tool
  · cases p.run.answer.isOk <;> simp [hname]
  · simp [hname]

/-- A call that came to a fault has it for an answer. -/
theorem answer_of_error (h : p.run.outcome = .error f) : p.run.answer = .error f := by
  rw [ToolRun.answer, h]
  rfl

/-- So it does not count as answered. -/
theorem isAnswered_of_error (h : p.run.outcome = .error f) : p.isAnswered tool = false := by
  rw [isAnswered, answer_of_error h]
  exact Bool.and_false _

/-- Nor as unwritten. -/
theorem isUnwritten_of_error (h : p.run.outcome = .error f) : p.isUnwritten tool = false := by
  rw [isUnwritten, h]
  simp [Except.isOk, Except.toBool]

/-- Nor as failed. -/
theorem isFailed_of_error (h : p.run.outcome = .error f) : p.isFailed tool = false := by
  rw [isFailed, answer_of_error h]
  exact Bool.and_false _

/-- A report of errors can always be written, so it is what the call answers. -/
theorem isFailed_of_ok (h : p.run.outcome = .ok a) :
    p.isFailed tool = (p.call.name == tool && a.isFailure) := by
  have hanswer : p.run.answer = a.write.map fun _ => a := by
    rw [ToolRun.answer, h]
    rfl
  rw [isFailed, hanswer]
  congr 1
  cases a with
  | report r => rfl
  | compiled q warnings => cases (ToolAnswer.compiled q warnings).write <;> rfl
  | found response => cases (ToolAnswer.found response).write <;> rfl

/-- A failed call was answered. -/
theorem isAnswered_of_isFailed (h : p.isFailed tool = true) : p.isAnswered tool = true := by
  rw [isFailed, Bool.and_eq_true] at h
  rw [isAnswered, h.1, Bool.true_and]
  cases hanswer : p.run.answer with
  | ok a => rfl
  | error f =>
      rw [hanswer] at h
      cases h.2

end

end PastCall

/-- Tools that are called one after the other, each with the counts that the one before has left. -/
def runTools {μ : Type → Type} [Monad μ] (run : SearchRequest → μ Searched) :
    Metrics → List ToolCall → μ (List PastCall)
  | _, [] => return []
  | m, call :: rest => do
    let done ← runTool run m call
    let later ← runTools run done.metrics rest
    return ⟨call, done⟩ :: later

/-- The counts that a history leaves. -/
def lastMetrics (m : Metrics) : List PastCall → Metrics
  | [] => m
  | p :: rest => lastMetrics p.run.metrics rest

/-- The last metrics of a longer history are those after its last call. -/
theorem lastMetrics_append_singleton (m : Metrics) (before : List PastCall) (last : PastCall) :
    lastMetrics m (before ++ [last]) = last.run.metrics := by
  induction before generalizing m with
  | nil => rfl
  | cons p rest ih => exact ih p.run.metrics

/-- The tools that are counted. -/
def countedTools : List String := ["tags_compile", "tags_search"]

/-- What a call has come to, and what it did to the counts before it. -/
inductive CallEnd (m : Metrics) (p : PastCall) : Prop
  /-- It came to something and was counted, as a failure exactly if that is one. -/
  | counted {i : Invocation} {a : ToolAnswer} (htool : p.call.name ∈ countedTools)
      (houtcome : p.run.outcome = .ok a) (hname : i.operation = p.call.name)
      (hfailure : i.failure.isSome = a.isFailure) (hmetrics : p.run.metrics = m.record i)
  /-- It was stopped by a fault, and not counted. -/
  | stopped {f : Fault} (houtcome : p.run.outcome = .error f) (hmetrics : p.run.metrics = m)
  /-- It was a validation, and not counted. -/
  | validated (htool : p.call.name = "tags_validate") (hmetrics : p.run.metrics = m)

/-- Why what a call came to could not be written. -/
inductive PastCall.Unwritten (p : PastCall) : Prop
  /-- Criteria were compiled, and one of their ids is too long. -/
  | longId {tags : Json} {q : Predicate} {warnings : List String} (hcall : p.call = .compile tags)
      (houtcome : p.run.outcome = .ok (.compiled q warnings))
      (hlong : ∃ n ∈ tags.numbers, fitsText n = false) (htext : p.run.text = .error .numberTooLong)
  /-- A response was found, and an item in it has no encoding. -/
  | noEncoding {tags title page size : Json} {response : SearchResponse} {f : EncodingFault}
      (hcall : p.call = .search tags title page size) (houtcome : p.run.outcome = .ok (.found response))
      (hitem : ∃ item ∈ response.data, ¬item.Encodable) (htext : p.run.text = .error (.unwritable f))

section

variable {m : Metrics} {tags title page size : Json}

/-- A report on invalid criteria is counted as a failure. -/
theorem CallEnd.of_invalidCriteria {call : ToolCall} (hcall : call.name ∈ countedTools)
    {report : Report} (hreport : report.valid = false) :
    CallEnd m ⟨call, .invalidCriteria m call.name report⟩ := by
  refine .counted hcall rfl rfl ?_ rfl
  rw [ToolAnswer.isFailure, hreport]
  rfl

/-- A report on an invalid request is, too. -/
theorem CallEnd.of_invalidRequest {call : ToolCall} (hcall : call.name ∈ countedTools) (r : Rejection) :
    CallEnd m ⟨call, .invalidRequest m call.name r⟩ :=
  .counted hcall rfl rfl rfl rfl

/-- A search that is over was counted exactly if it has found a response. -/
theorem CallEnd.of_finishSearch (done : Searched) :
    CallEnd m ⟨.search tags title page size, finishSearch m done⟩ := by
  obtain ⟨events, answer⟩ := done
  cases answer with
  | error f => exact .stopped rfl rfl
  | ok response => exact .counted (List.mem_cons_of_mem _ List.mem_cons_self) rfl rfl rfl rfl

/-- A compilation is stopped, or refuses the criteria, or compiles them. -/
theorem compileTool_cases (m : Metrics) (tags : Json) :
    (∃ f, compileTool m tags = .silent m (.error f)) ∨
      (∃ r : Report, r.valid = false ∧ compileTool m tags = .invalidCriteria m "tags_compile" r) ∨
      ∃ p warnings, (validate tags).isValid = true ∧ compileJson tags = .ok p ∧
        compileTool m tags =
          .logged m { operation := "tags_compile", extra := [("criteria_count", .int tags.itemCount)] }
            (.compiled p warnings) := by
  rw [compileTool]
  cases hreport : (validate tags).report with
  | error f => exact Or.inl ⟨f, rfl⟩
  | ok report =>
      obtain ⟨-, rfl⟩ := Verdict.report_eq_ok_iff.mp hreport
      cases hvalid : (Report.ofVerdict (validate tags)).valid with
      | false =>
          refine Or.inr (Or.inl ⟨_, hvalid, ?_⟩)
          simp [hvalid]
      | true =>
          cases hcompile : compileJson tags with
          | error f => exact Or.inl ⟨f, by simp [hvalid]⟩
          | ok p =>
              refine Or.inr (Or.inr ⟨p, (Report.ofVerdict (validate tags)).warnings, hvalid, rfl, ?_⟩)
              simp [hvalid]

/-- A search is stopped, or refuses the criteria or the request, or is run. -/
theorem searchTool_cases {σ : Type} (run : SearchRequest → StateM σ Searched) (m : Metrics)
    (tags title page size : Json) (s : σ) :
    (∃ f, (searchTool run m tags title page size s).1 = .silent m (.error f)) ∨
      (∃ r : Report, r.valid = false ∧
        (searchTool run m tags title page size s).1 = .invalidCriteria m "tags_search" r) ∨
      (∃ r, (searchTool run m tags title page size s).1 = .invalidRequest m "tags_search" r) ∨
      ∃ done, (searchTool run m tags title page size s).1 = finishSearch m done := by
  rw [searchTool]
  cases (validate tags).report with
  | error f => exact Or.inl ⟨f, rfl⟩
  | ok report =>
      cases hvalid : report.valid with
      | false =>
          refine Or.inr (Or.inl ⟨report, hvalid, ?_⟩)
          simp only [hvalid]
          rfl
      | true =>
          simp only [hvalid]
          cases SearchRequest.ofParts tags title page size with
          | error r => exact Or.inr (Or.inr (Or.inl ⟨r, rfl⟩))
          | ok request => exact Or.inr (Or.inr (Or.inr ⟨(run request s).1, rfl⟩))

/-- **Only an id that is too long keeps a compilation from being written.** -/
theorem compileTool_unwritten {a : ToolAnswer} {f : Fault} (houtcome : (compileTool m tags).outcome = .ok a)
    (hwrite : a.write = .error f) : PastCall.Unwritten ⟨.compile tags, compileTool m tags⟩ := by
  rcases compileTool_cases m tags with
    ⟨g, hrun⟩ | ⟨r, -, hrun⟩ | ⟨p, warnings, hvalid, hcompile, hrun⟩
  · rw [hrun] at houtcome
    cases houtcome
  · rw [hrun] at houtcome
    obtain rfl := Except.ok.inj houtcome
    cases hwrite
  · have hmade : (compileTool m tags).outcome = .ok (.compiled p warnings) := by
      rw [hrun]
      rfl
    obtain rfl := Except.ok.inj (hmade.symm.trans houtcome)
    have hlong : ∃ n ∈ p.numbers, fitsText n = false := (ifFitting_eq_error_iff.mp hwrite).1
    refine .longId rfl hmade ?_ (compileTool_text_of_long hvalid hcompile hlong)
    -- null is valid as well, but nothing is compiled from it
    obtain rfl | ⟨cs, rfl⟩ := isValid_validate_iff.mp hvalid
    · cases hcompile
    · obtain rfl := Except.ok.inj ((compileJson_listToJson cs).symm.trans hcompile)
      have hnot : ¬(Criterion.listToJson cs).NumbersFit := by
        rw [← compile_numbersFit_iff]
        simpa using hlong
      simpa [Json.NumbersFit] using hnot

/-- **Only an item without an encoding keeps a response from being written.** -/
theorem finishSearch_unwritten {done : Searched} {a : ToolAnswer} {f : Fault}
    (houtcome : (finishSearch m done).outcome = .ok a) (hwrite : a.write = .error f) :
    PastCall.Unwritten ⟨.search tags title page size, finishSearch m done⟩ := by
  obtain ⟨events, answer⟩ := done
  cases answer with
  | error g => cases houtcome
  | ok response =>
      obtain rfl := Except.ok.inj houtcome
      rcases response.write_cases with ⟨-, hwritten⟩ | ⟨hitem, g, hwritten⟩
      · cases hwritten.symm.trans hwrite
      · exact .noEncoding rfl rfl hitem hwritten

end

section

variable {σ : Type} {run : SearchRequest → StateM σ Searched} {m : Metrics}

/-- **A call has one of these ends**, whatever the store does. -/
theorem runTool_end (m : Metrics) (call : ToolCall) (s : σ) :
    CallEnd m ⟨call, (runTool run m call s).1⟩ := by
  cases call with
  | compile tags =>
      have htool : (ToolCall.compile tags).name ∈ countedTools := List.mem_cons_self
      show CallEnd m ⟨.compile tags, compileTool m tags⟩
      rcases compileTool_cases m tags with ⟨f, hrun⟩ | ⟨r, hr, hrun⟩ | ⟨p, warnings, -, -, hrun⟩
      · rw [hrun]
        exact .stopped rfl rfl
      · rw [hrun]
        exact .of_invalidCriteria htool hr
      · rw [hrun]
        exact .counted htool rfl rfl rfl rfl
  | validate tags => exact .validated rfl rfl
  | search tags title page size =>
      have htool : (ToolCall.search tags title page size).name ∈ countedTools :=
        List.mem_cons_of_mem _ List.mem_cons_self
      rw [runTool]
      rcases searchTool_cases run m tags title page size s with
        ⟨f, hrun⟩ | ⟨r, hr, hrun⟩ | ⟨r, hrun⟩ | ⟨done, hrun⟩
      · rw [hrun]
        exact .stopped rfl rfl
      · rw [hrun]
        exact .of_invalidCriteria htool hr
      · rw [hrun]
        exact .of_invalidRequest htool r
      · rw [hrun]
        exact .of_finishSearch done

/-- **What a call came to is written but for two reasons.** -/
theorem runTool_unwritten {call : ToolCall} {s : σ} {a : ToolAnswer} {f : Fault}
    (houtcome : (runTool run m call s).1.outcome = .ok a) (hwrite : a.write = .error f) :
    PastCall.Unwritten ⟨call, (runTool run m call s).1⟩ := by
  cases call with
  | compile tags => exact compileTool_unwritten houtcome hwrite
  | validate tags =>
      change (validate tags).report.map ToolAnswer.report = _ at houtcome
      cases hreport : (validate tags).report with
      | error g =>
          rw [hreport] at houtcome
          cases houtcome
      | ok r =>
          rw [hreport] at houtcome
          obtain rfl := Except.ok.inj houtcome
          cases hwrite
  | search tags title page size =>
      rw [runTool] at houtcome ⊢
      rcases searchTool_cases run m tags title page size s with
        ⟨g, hrun⟩ | ⟨r, -, hrun⟩ | ⟨r, hrun⟩ | ⟨done, hrun⟩
      · rw [hrun] at houtcome
        cases houtcome
      · rw [hrun] at houtcome
        obtain rfl := Except.ok.inj houtcome
        cases hwrite
      · rw [hrun] at houtcome
        obtain rfl := Except.ok.inj houtcome
        cases hwrite
      · rw [hrun] at houtcome ⊢
        exact finishSearch_unwritten houtcome hwrite

end

/-- Counting adds no name but its own. -/
theorem Counts.of_mem_count {counts : Counts} {name : String} {entry : String × Nat}
    (h : entry ∈ counts.count name) : entry.1 = name ∨ ∃ old ∈ counts, old.1 = entry.1 := by
  induction counts with
  | nil =>
      rw [count, List.mem_singleton] at h
      exact Or.inl (congrArg Prod.fst h)
  | cons old rest ih =>
      obtain ⟨key, n⟩ := old
      rw [count] at h
      split at h
      · rename_i hkey
        rcases List.mem_cons.mp h with rfl | hrest
        · exact Or.inl hkey
        · exact Or.inr ⟨entry, List.mem_cons_of_mem _ hrest, rfl⟩
      · rcases List.mem_cons.mp h with rfl | hrest
        · exact Or.inr ⟨_, List.mem_cons_self, rfl⟩
        · rcases ih hrest with hname | ⟨old, hold, hsame⟩
          · exact Or.inl hname
          · exact Or.inr ⟨old, List.mem_cons_of_mem _ hold, hsame⟩

/-- The counts are those of a history. -/
structure Metrics.CountsOf (m : Metrics) (past : List PastCall) : Prop where
  calls : ∀ tool ∈ countedTools, m.calls.of tool =
    past.countP (·.isAnswered tool) + past.countP (·.isUnwritten tool)
  errors : ∀ tool ∈ countedTools, m.errors.of tool = past.countP (·.isFailed tool)
  names : ∀ entry ∈ m.calls ++ m.errors, entry.1 ∈ countedTools

namespace Metrics

/-- Nothing is counted before the first call. -/
theorem countsOf_nil : CountsOf {} [] where
  calls := fun _ _ => rfl
  errors := fun _ _ => rfl
  names := List.forall_mem_nil _

/-- Recording an invocation of a counted tool adds no other name. -/
theorem names_record {m : Metrics} {i : Invocation} (hi : i.operation ∈ countedTools)
    (h : ∀ entry ∈ m.calls ++ m.errors, entry.1 ∈ countedTools) :
    ∀ entry ∈ (m.record i).calls ++ (m.record i).errors, entry.1 ∈ countedTools := by
  obtain ⟨hcalls, herrors⟩ := List.forall_mem_append.mp h
  have hcount : ∀ {counts : Counts}, (∀ entry ∈ counts, entry.1 ∈ countedTools) →
      ∀ entry ∈ counts.count i.operation, entry.1 ∈ countedTools := by
    intro counts hold entry hentry
    rcases Counts.of_mem_count hentry with hname | ⟨old, hmem, hsame⟩
    · rw [hname]
      exact hi
    · rw [← hsame]
      exact hold old hmem
  refine List.forall_mem_append.mpr ⟨hcount hcalls, ?_⟩
  rw [record]
  split
  · exact hcount herrors
  · exact herrors

/-- An invocation is one more call of its operation. -/
theorem calls_record (m : Metrics) (i : Invocation) (tool : String) :
    (m.record i).calls.of tool = m.calls.of tool + if i.operation = tool then 1 else 0 :=
  Counts.of_count m.calls i.operation tool

/-- An invocation is one more error of its operation if it has failed. -/
theorem errors_record (m : Metrics) (i : Invocation) (tool : String) :
    (m.record i).errors.of tool =
      m.errors.of tool + if i.operation = tool ∧ i.failure.isSome = true then 1 else 0 := by
  rw [record]
  by_cases hfailed : i.failure.isSome = true
  · simp [hfailed, Counts.of_count]
  · simp [hfailed]

section

variable {m : Metrics} {past : List PastCall} {p : PastCall}

/-- Counts stay equal to the history if they grow by what there is of the last call in it. -/
theorem CountsOf.append (hm : m.CountsOf past) {m' : Metrics}
    (hcalls : ∀ tool ∈ countedTools, m'.calls.of tool = m.calls.of tool +
      ((if p.isAnswered tool then 1 else 0) + if p.isUnwritten tool then 1 else 0))
    (herrors : ∀ tool ∈ countedTools, m'.errors.of tool =
      m.errors.of tool + if p.isFailed tool then 1 else 0)
    (hnames : ∀ entry ∈ m'.calls ++ m'.errors, entry.1 ∈ countedTools) : m'.CountsOf (past ++ [p]) where
  calls := by
    intro tool htool
    rw [hcalls tool htool, hm.calls tool htool, List.countP_append, List.countP_append,
      List.countP_singleton, List.countP_singleton]
    omega
  errors := by
    intro tool htool
    rw [herrors tool htool, hm.errors tool htool, List.countP_append, List.countP_singleton]
  names := hnames

/-- **One more call** keeps the counts equal to the history. -/
theorem CountsOf.step (hm : m.CountsOf past) (hp : CallEnd m p) :
    p.run.metrics.CountsOf (past ++ [p]) := by
  cases hp with
  | @counted i a htool houtcome hname hfailure hmetrics =>
      rw [hmetrics]
      apply hm.append
      · intro tool _
        rw [calls_record, hname, PastCall.answered_or_unwritten houtcome]
      · intro tool _
        simp [errors_record, PastCall.isFailed_of_ok houtcome, hname, hfailure]
      · exact names_record (hname ▸ htool) hm.names
  | @stopped f houtcome hmetrics =>
      rw [hmetrics]
      apply hm.append
      · intro tool _
        simp [PastCall.isAnswered_of_error houtcome, PastCall.isUnwritten_of_error houtcome]
      · intro tool _
        simp [PastCall.isFailed_of_error houtcome]
      · exact hm.names
  | validated htool hmetrics =>
      have hother : ∀ tool ∈ countedTools, ("tags_validate" == tool) = false := by decide
      rw [hmetrics]
      apply hm.append
      · intro tool hcounted
        simp [PastCall.isAnswered, PastCall.isUnwritten, htool, hother tool hcounted]
      · intro tool hcounted
        simp [PastCall.isFailed, htool, hother tool hcounted]
      · exact hm.names

end

end Metrics

section

variable {σ : Type} {run : SearchRequest → StateM σ Searched} {m : Metrics} {p : PastCall}

/-- A call was run from these counts, in some state of the store. -/
def PastCall.RunFrom (run : SearchRequest → StateM σ Searched) (m : Metrics) (p : PastCall) : Prop :=
  ∃ s, p.run = (runTool run m p.call s).1

/-- A call that was run has one of the ends of a call. -/
theorem PastCall.RunFrom.callEnd (h : p.RunFrom run m) : CallEnd m p := by
  obtain ⟨s, hs⟩ := h
  have hp : p = ⟨p.call, (runTool run m p.call s).1⟩ := by rw [← hs]
  rw [hp]
  exact runTool_end m p.call s

/-- What it came to was written, or there is a reason why not. -/
theorem PastCall.RunFrom.unwritten (h : p.RunFrom run m) {a : ToolAnswer} {f : Fault}
    (houtcome : p.run.outcome = .ok a) (hwrite : a.write = .error f) : p.Unwritten := by
  obtain ⟨s, hs⟩ := h
  have hp : p = ⟨p.call, (runTool run m p.call s).1⟩ := by rw [← hs]
  rw [hp]
  exact runTool_unwritten (hs ▸ houtcome) hwrite

/-- Calls follow each other when each is run from the counts that the one before has left. -/
def Follow (run : SearchRequest → StateM σ Searched) : Metrics → List PastCall → Prop
  | _, [] => True
  | m, p :: rest => p.RunFrom run m ∧ Follow run p.run.metrics rest

/-- What follows up to a call, and that call. -/
theorem Follow.split {before after : List PastCall} {last : PastCall}
    (h : Follow run m (before ++ last :: after)) :
    Follow run m (before ++ [last]) ∧ last.RunFrom run (lastMetrics m before) := by
  induction before generalizing m with
  | nil => exact ⟨⟨h.1, trivial⟩, h.1⟩
  | cons p rest ih =>
      obtain ⟨hrest, hlast⟩ := ih h.2
      exact ⟨⟨h.1, hrest⟩, hlast⟩

/-- **A whole run** keeps the counts equal to the history. -/
theorem Metrics.CountsOf.follow {past history : List PastCall} (hm : m.CountsOf past)
    (h : Follow run m history) : (lastMetrics m history).CountsOf (past ++ history) := by
  induction history generalizing m past with
  | nil =>
      rw [List.append_nil]
      exact hm
  | cons p rest ih =>
      rw [List.append_cons]
      exact ih (hm.step h.1.callEnd) h.2

/-- The history of a run has the calls of the run. -/
theorem map_call_runTools (m : Metrics) (calls : List ToolCall) (s : σ) :
    (runTools run m calls s).1.map PastCall.call = calls := by
  induction calls generalizing m s with
  | nil => rfl
  | cons call rest ih => exact congrArg (call :: ·) (ih _ _)

/-- The calls of a run follow each other. -/
theorem runTools_follow (m : Metrics) (calls : List ToolCall) (s : σ) :
    Follow run m (runTools run m calls s).1 := by
  induction calls generalizing m s with
  | nil => trivial
  | cons call rest ih => exact ⟨⟨s, rfl⟩, ih _ _⟩

/-- **The counts are the history.**  After every call of a run, a counted tool was called as often as it has
come to an answer or to something that could not be written, and has failed as often as it had an answer
that says so.  Nothing else is counted.  A call that gives no text changes nothing, unless it came to
something that could not be written; and that is compiled criteria with an id that is too long, or a
response with an item that has no encoding. -/
theorem invocation_counts_are_history (calls : List ToolCall) (s : σ) :
    (runTools run {} calls s).1.map PastCall.call = calls ∧
      ∀ before last after, (runTools run {} calls s).1 = before ++ last :: after →
        let past := before ++ [last]
        let m := last.run.metrics
        (∀ tool ∈ countedTools,
          m.calls.of tool = past.countP (·.isAnswered tool) + past.countP (·.isUnwritten tool) ∧
          m.errors.of tool = past.countP (·.isFailed tool) ∧
          m.errors.of tool ≤ m.calls.of tool) ∧
        (∀ entry ∈ m.calls ++ m.errors, entry.1 ∈ countedTools) ∧
        ∀ f, last.run.text = .error f →
          (m = lastMetrics {} before ∧ ∀ tool, last.isUnwritten tool = false) ∨ last.Unwritten := by
  refine ⟨map_call_runTools {} calls s, ?_⟩
  intro before last after hhistory past m
  have hfollow : Follow run {} (runTools run {} calls s).1 := runTools_follow {} calls s
  rw [hhistory] at hfollow
  obtain ⟨hpast, hlast⟩ := hfollow.split
  have hcounts : m.CountsOf past := by
    have hwhole := Metrics.countsOf_nil.follow hpast
    rw [lastMetrics_append_singleton, List.nil_append] at hwhole
    exact hwhole
  refine ⟨?_, hcounts.names, ?_⟩
  · intro tool htool
    have hfailed : past.countP (·.isFailed tool) ≤ past.countP (·.isAnswered tool) := by
      apply List.countP_mono_left
      intro p _ hp
      exact PastCall.isAnswered_of_isFailed hp
    refine ⟨hcounts.calls tool htool, hcounts.errors tool htool, ?_⟩
    rw [hcounts.errors tool htool, hcounts.calls tool htool]
    omega
  · intro f htext
    cases houtcome : last.run.outcome with
    | ok a =>
        rw [ToolRun.text, houtcome] at htext
        exact Or.inr (hlast.unwritten houtcome htext)
    | error g =>
        refine Or.inl ⟨?_, fun tool => PastCall.isUnwritten_of_error houtcome⟩
        cases hlast.callEnd with
        | counted _ hok => cases hok.symm.trans houtcome
        | stopped _ hmetrics => exact hmetrics
        | validated _ hmetrics => exact hmetrics

end

/-- A store that fails the second time it is asked, and calls with all the ends there are but one: two
compilations, of which one is stopped, a validation, and four searches, of which one is stopped and two have
arguments that do not fit. -/
theorem mixed_run_counts :
    let find : Query → StateM Nat (Except Fault ItemPage) := fun _ n =>
      (if n = 1 then .error (.fileNotFound "items.json") else .ok ⟨1, [⟨.number 1, "a", []⟩]⟩, n + 1)
    let calls : List ToolCall := [.compile (.ints [5]), .search .null .null (.int 1) .null,
      .search .null .null (.int 1) .null, .search (.int 5) .null (.int 1) .null,
      .search .null .null (.int 0) .null, .validate (.int 5), .compile .null]
    ∃ before last, (runTools (search find {}) {} calls 0).1 = before ++ [last] ∧
      last.run.metrics.calls.of "tags_compile" = 1 ∧ last.run.metrics.calls.of "tags_search" = 3 ∧
      last.run.metrics.errors.of "tags_compile" = 0 ∧ last.run.metrics.errors.of "tags_search" = 2 ∧
      last.run.text = .error (.notIterable "NoneType") ∧ last.run.metrics = lastMetrics {} before := by
  intro find calls
  let history := (runTools (search find {}) {} calls 0).1
  obtain ⟨hcalls, hcounts⟩ : history.map PastCall.call = calls ∧ _ :=
    invocation_counts_are_history calls 0
  have hne : history ≠ [] := by
    intro hnil
    exact List.cons_ne_nil _ _ (hcalls.symm.trans (congrArg (List.map PastCall.call) hnil))
  have hsplit : history.dropLast ++ [history.getLast hne] = history :=
    List.dropLast_append_getLast hne
  obtain ⟨htools, -, hstopped⟩ := hcounts _ _ [] hsplit.symm
  obtain ⟨hcompiled, hcompileErrors, -⟩ := htools "tags_compile" List.mem_cons_self
  obtain ⟨hsearched, hsearchErrors, -⟩ :=
    htools "tags_search" (List.mem_cons_of_mem _ List.mem_cons_self)
  rw [hsplit] at hcompiled hsearched hcompileErrors hsearchErrors
  have htext : (history.getLast hne).run.text = .error (.notIterable "NoneType") := rfl
  refine ⟨_, _, hsplit.symm, hcompiled.trans ?_, hsearched.trans ?_, hcompileErrors.trans ?_,
    hsearchErrors.trans ?_, htext, ?_⟩
  iterate 4 decide +kernel
  rcases hstopped _ htext with ⟨hkept, -⟩ | hunwritten
  · exact hkept
  · cases hunwritten with
    | longId _ _ _ hlong => cases hlong
    | noEncoding _ _ _ hnone => cases hnone

/-- **A search whose answer cannot be written is counted**, although the call does not come to an answer. -/
theorem unwritten_search_is_counted :
    let surrogate : Item := ⟨.number 1, ⟨"", [(⟨0⟩, "")]⟩, []⟩
    let find : Query → StateM Unit (Except Fault ItemPage) := fun _ => return .ok ⟨1, [surrogate]⟩
    ∃ p, (runTools (search find {}) {} [.search .null .null (.int 1) .null] ()).1 = [p] ∧
      p.isUnwritten "tags_search" = true ∧ p.isAnswered "tags_search" = false ∧
      p.run.metrics.calls.of "tags_search" = 1 := by
  intro surrogate find
  refine ⟨_, rfl, ?_, ?_, ?_⟩
  all_goals decide +kernel

end TagSearch
