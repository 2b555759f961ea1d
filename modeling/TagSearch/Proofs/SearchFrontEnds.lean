import TagSearch.Command.Run
import TagSearch.Proofs.CriteriaGates
import TagSearch.Proofs.SearchPaging

/-!
# The command and the tool search alike

A search can be asked for on the command line and through the tool.  Both check the criteria first and
then the page, both search by the same service, and both write the response in one layout; but each way
has code of its own for all of it.

1.  What is wrong with the arguments is a list of complaints, `searchComplaints`, that is computed from
    the arguments alone.  Reading a request raises the complaints about its page (`requestRead_cases`).
2.  A response is written exactly if its ids and titles have an encoding (`write_cases`).
3.  `SameEnd` lists what a search comes to on both ways, and `searches_end_alike` says that it does.

A title or an id with a surrogate on the page asked for is the one thing that keeps both ways from an
answer to arguments that are right; nothing looks for it before the response is written.
-/

namespace TagSearch

/-- What is wrong with a search, and the part of the page request that it is about. -/
structure Complaint where
  part : Option String
  text : String

/-- A complaint as the command line words it. -/
def Complaint.placed (c : Complaint) : String :=
  match c.part with
  | none => c.text
  | some part => part ++ ": " ++ c.text

/-- A number below one. -/
def leastComplaint (part : String) (n : Int) : List Complaint :=
  if 1 ≤ n then [] else [⟨some part, "Input should be greater than or equal to 1"⟩]

/-- A size that is not from 1 to 1000. -/
def sizeComplaint : Option Int → List Complaint
  | none => []
  | some n =>
    if n ≤ 1000 then leastComplaint "size" n
    else [⟨some "size", "Input should be less than or equal to 1000"⟩]

def pageComplaints (page : Int) (size : Option Int) : List Complaint :=
  leastComplaint "page" page ++ sizeComplaint size

/-- What is wrong with a search: the criteria, or else the page. -/
def searchComplaints (tags : Json) (page : Int) (size : Option Int) : List Complaint :=
  if (validate tags).isValid then pageComplaints page size
  else (validate tags).errors.map fun e => ⟨none, e.message⟩

/-- An issue of a request as a complaint. -/
def Issue.complaint (i : Issue) : Complaint where
  part := some (".".intercalate (i.path.map fun step =>
    match step with
    | .name s => s
    | .position n => toString n))
  text := i.cause.message .data

/-- A page that nobody complains about is within bounds. -/
theorem inBounds_of_pageComplaints {page : Int} {size : Option Int}
    (h : pageComplaints page size = []) : (⟨page, size⟩ : PageRequest).InBounds := by
  have hleast : ∀ {part : String} {n : Int}, leastComplaint part n = [] → 1 ≤ n := by
    intro part n hn
    by_contra hlow
    rw [leastComplaint, if_neg hlow] at hn
    cases hn
  obtain ⟨hpage, hsize⟩ := List.append_eq_nil_iff.mp h
  refine ⟨hleast hpage, ?_⟩
  intro n hn
  obtain rfl : size = some n := hn
  rw [sizeComplaint] at hsize
  split at hsize
  · rename_i hmost
    exact ⟨hleast hsize, hmost⟩
  · cases hsize

/-- The members of a page request, with a size if there is one. -/
def pageMembers (page : Int) (size : Option Int) : Json.Members :=
  ("page", .int page) :: (size.map fun n => (("size" : Text), Json.int n)).toList

namespace Checked

variable {α β : Type}

/-- Reading comes to the given value, or else to issues that are the given complaints. -/
def Raises (x : Checked α) (a : α) (complaints : List Complaint) : Prop :=
  match x with
  | .accepted b => b = a ∧ complaints = []
  | .refused issues => issues ≠ [] ∧ issues.map Issue.complaint = complaints

/-- What is done with a value raises no further complaints. -/
theorem Raises.map {x : Checked α} {a : α} {complaints : List Complaint} (f : α → β)
    (hx : x.Raises a complaints) : (f <$> x).Raises (f a) complaints := by
  cases x with
  | accepted b =>
      obtain ⟨rfl, rfl⟩ := hx
      exact ⟨rfl, rfl⟩
  | refused issues => exact hx

/-- Two parts raise the complaints of both, in their order. -/
theorem Raises.seq {f : Checked (α → β)} {x : Checked α} {g : α → β} {a : α}
    {first second : List Complaint} (hf : f.Raises g first) (hx : x.Raises a second) :
    (f <*> x).Raises (g a) (first ++ second) := by
  cases f with
  | accepted g' =>
      obtain ⟨rfl, rfl⟩ := hf
      cases x with
      | accepted a' =>
          obtain ⟨rfl, rfl⟩ := hx
          exact ⟨rfl, rfl⟩
      | refused issues => exact hx
  | refused issues =>
      obtain ⟨hsome, rfl⟩ := hf
      cases x with
      | accepted a' =>
          obtain ⟨rfl, rfl⟩ := hx
          exact ⟨hsome, (List.append_nil _).symm⟩
      | refused more =>
          obtain ⟨-, rfl⟩ := hx
          exact ⟨List.append_ne_nil_of_left_ne_nil hsome more, List.map_append⟩

/-- A page raises the complaint about its least value. -/
theorem raises_page (page : Int) (given : Json.Members) :
    (defaulted "page" 1 (integerFrom 1) (("page", .int page) :: given)).Raises page
      (leastComplaint "page" page) := by
  show Raises (map (·.getD 1) (under (.name "page") (map some (ofCause (Scalar.atLeast 1 page))))) _ _
  by_cases hpage : 1 ≤ page
  · rw [Scalar.atLeast, leastComplaint, if_pos hpage, if_pos hpage]
    exact ⟨rfl, rfl⟩
  · rw [Scalar.atLeast, leastComplaint, if_neg hpage, if_neg hpage]
    exact ⟨List.cons_ne_nil _ _, rfl⟩

/-- The lower bound is checked first, so a size raises one complaint at most. -/
theorem raises_size (page : Int) (size : Option Int) :
    (optional "size" (integerBetween 1 1000) (pageMembers page size)).Raises size
      (sizeComplaint size) := by
  cases size with
  | none => exact ⟨rfl, rfl⟩
  | some n =>
      show Raises (under (.name "size") (map some
        (ofCause (Scalar.atLeast 1 n >>= Scalar.atMost 1000)))) _ _
      by_cases hleast : 1 ≤ n
      · rw [Scalar.atLeast, if_pos hleast]
        show Raises (under (.name "size") (map some (ofCause (Scalar.atMost 1000 n)))) _ _
        by_cases hmost : n ≤ 1000
        · rw [Scalar.atMost, sizeComplaint, leastComplaint, if_pos hmost, if_pos hmost,
            if_pos hleast]
          exact ⟨rfl, rfl⟩
        · rw [Scalar.atMost, sizeComplaint, if_neg hmost, if_neg hmost]
          exact ⟨List.cons_ne_nil _ _, rfl⟩
      · have hmost : n ≤ 1000 := by omega
        rw [Scalar.atLeast, sizeComplaint, leastComplaint, if_neg hleast, if_pos hmost,
          if_neg hleast]
        exact ⟨List.cons_ne_nil _ _, rfl⟩

end Checked

/-- The criteria that a value stands for, if it stands for any. -/
def criteriaOf (tags : Json) : Option (List Criterion) :=
  match Checked.nullable Criterion.decodeAll tags with
  | .accepted criteria => criteria
  | .refused _ => none

/-- The request that arguments stand for. -/
def requestOf (tags : Json) (title : Option Text) (page : Int) (size : Option Int) :
    SearchRequest where
  data := some { tags := criteriaOf tags, title }
  metadata := { page, size }

/-- The request that is read from arguments, or why there is none. -/
def requestRead (tags : Json) (title : Option Text) (page : Int) (size : Option Int) :
    Except Rejection SearchRequest :=
  SearchRequest.ofParts tags (Json.ofOption (title.map .str)) (.int page)
    (Json.ofOption (size.map .int))

section

variable {tags : Json}

/-- Valid criteria are read as what they stand for. -/
theorem decode_criteriaOf (h : (validate tags).isValid) :
    Checked.nullable Criterion.decodeAll tags = .accepted (criteriaOf tags) := by
  have hwritten : ∃ criteria : Option (List Criterion),
      Json.ofOption (criteria.map Criterion.listToJson) = tags := by
    rcases isValid_validate_iff.mp h with rfl | ⟨criteria, rfl⟩
    · exact ⟨none, rfl⟩
    · exact ⟨some criteria, rfl⟩
  obtain ⟨criteria, hcriteria⟩ := hwritten
  have haccepted := Checked.nullable_decodeAll_eq_accepted_iff.mpr hcriteria
  rw [criteriaOf, haccepted]

/-- **Arguments with valid criteria** make the request, or raise the complaints about its page. -/
theorem requestRead_cases (h : (validate tags).isValid) (title : Option Text) (page : Int)
    (size : Option Int) :
    (pageComplaints page size = [] ∧
      requestRead tags title page size = .ok (requestOf tags title page size)) ∨
    ∃ r, pageComplaints page size ≠ [] ∧ requestRead tags title page size = .error r ∧
      r.messages = (pageComplaints page size).map Complaint.text ∧
      Command.requestErrors r = (pageComplaints page size).map Complaint.placed := by
  have hcriteria : SearchCriteria.decode
      (.obj [("tags", tags), ("title", Json.ofOption (title.map .str))]) =
      .accepted ⟨criteriaOf tags, title⟩ := by
    refine Checked.seq_eq_accepted_iff.mpr ⟨_, title, Checked.fmap_eq_accepted_iff.mpr
      ⟨_, Checked.defaulted_of_lookup rfl (decode_criteriaOf h), rfl⟩, ?_, rfl⟩
    apply Checked.defaulted_of_lookup rfl
    cases title with
    | none => rfl
    | some t => rfl
  have hpage : (PageRequest.decode (.obj (pageMembers page size))).Raises ⟨page, size⟩
      (pageComplaints page size) :=
    ((Checked.raises_page page _).map PageRequest.mk).seq (Checked.raises_size page size)
  have hparts : requestRead tags title page size =
      (PageRequest.decode (.obj (pageMembers page size))).conclude "PageRequest" .data >>=
        fun metadata => .ok ⟨some ⟨criteriaOf tags, title⟩, metadata⟩ := by
    unfold requestRead SearchRequest.ofParts
    rw [hcriteria]
    cases size with
    | none => rfl
    | some n => rfl
  rw [hparts]
  cases hread : PageRequest.decode (.obj (pageMembers page size)) with
  | accepted metadata =>
      rw [hread] at hpage
      obtain ⟨rfl, hnone⟩ := hpage
      exact Or.inl ⟨hnone, rfl⟩
  | refused issues =>
      rw [hread] at hpage
      obtain ⟨hsome, hcomplaints⟩ := hpage
      rw [← hcomplaints, List.map_map, List.map_map]
      exact Or.inr ⟨_, fun h => hsome (List.map_eq_nil_iff.mp h), rfl, rfl, rfl⟩

end

/-- Id and title of an item have an encoding. -/
def Item.Encodable (item : Item) : Prop :=
  (∀ t, item.id = .text t → ∃ x : String, t = .ofString x) ∧ ∃ x : String, item.title = .ofString x

namespace Json

/-- A value can be encoded if each text in it can. -/
theorem encodingFault?_eq_none_iff {v : Json} :
    v.encodingFault? = none ↔ ∀ t ∈ v.texts, t.encodingFault? = none := by
  rw [encodingFault?, List.findSome?_eq_none_iff]

/-- The texts in items are those of each. -/
theorem itemTexts_eq_flatMap (items : List Json) : itemTexts items = items.flatMap texts := by
  induction items with
  | nil => rfl
  | cons item rest ih => rw [itemTexts, ih, List.flatMap_cons]

/-- Whole numbers have no texts in them. -/
theorem texts_ints (ns : List Int) : (ints ns).texts = [] := by
  rw [ints, texts, itemTexts_eq_flatMap, List.flatMap_map]
  exact List.flatMap_eq_nil_iff.mpr fun _ _ => rfl

end Json

/-- An item can be encoded if each text in its record can. -/
theorem Item.encodable_iff {item : Item} :
    item.Encodable ↔ ∀ t ∈ item.toJson.texts, t.encodingFault? = none := by
  rw [Encodable, ← Text.encodingFault?_eq_none_iff]
  obtain ⟨id, title, tags⟩ := item
  cases id with
  | number n => simp [Item.toJson, ItemId.toJson, Json.texts, Json.memberTexts, Json.texts_ints]
  | text t =>
      simp [Item.toJson, ItemId.toJson, Json.texts, Json.memberTexts, Json.texts_ints,
        ← Text.encodingFault?_eq_none_iff]

/-- **A response is written** exactly if every item in it can be. -/
theorem SearchResponse.write_cases (r : SearchResponse) :
    ((∀ item ∈ r.data, item.Encodable) ∧ r.write = .ok r.toText) ∨
    ((∃ item ∈ r.data, ¬item.Encodable) ∧ ∃ f, r.write = .error (.unwritable f)) := by
  -- all other texts in a response are names of members
  have htexts : (∀ t ∈ r.toJson.texts, t.encodingFault? = none) ↔
      ∀ t, ∀ item ∈ r.data, t ∈ item.toJson.texts → t.encodingFault? = none := by
    simp [toJson, PageInfo.toJson, Json.texts, Json.memberTexts, Json.itemTexts_eq_flatMap]
  have hfault : r.toJson.encodingFault? = none ↔ ∀ item ∈ r.data, item.Encodable := by
    rw [Json.encodingFault?_eq_none_iff, htexts]
    constructor
    · intro h item hitem
      exact Item.encodable_iff.mpr fun t ht => h t item hitem ht
    · intro h t item hitem ht
      exact Item.encodable_iff.mp (h item hitem) t ht
  rw [write]
  cases h : r.toJson.encodingFault? with
  | none => exact Or.inl ⟨hfault.mp h, rfl⟩
  | some f =>
      have hnot : ¬∀ item ∈ r.data, item.Encodable := by
        intro hall
        rw [hfault.mpr hall] at h
        cases h
      refine Or.inr ⟨?_, f, rfl⟩
      simpa only [not_forall, exists_prop] using hnot

/-- What is given for an option, if anything. -/
def Argument.ofOption {α : Type} : Option α → Argument α
  | none => .absent
  | some a => .value a

/-- An option that is not given is null. -/
theorem Argument.toJson_ofOption {α : Type} (write : α → Json) (a : Option α) :
    (ofOption a).toJson write = Json.ofOption (a.map write) := by
  cases a <;> rfl

/-- What the option for criteria says: null if it is not given. -/
def readCriteria : Option String → Except Json.ReadError Json
  | none => .ok .null
  | some text => Json.read text

/-- A search on the command line, in the items of a file. -/
def Command.searchFile (text : Option String) (title : Option Text) (page : Int) (size : Option Int)
    (path : String) : Command :=
  .search (.ofOption text) (.ofOption title) (.value page) (.ofOption size) (.value path)

/-- A search through the tool. -/
def ToolCall.searchFor (tags : Json) (title : Option Text) (page : Int) (size : Option Int) :
    ToolCall :=
  .search tags (Json.ofOption (title.map .str)) (.int page)
    (Json.ofOption (size.map .int))

/-- The lines that a command prints about criteria which are odd. -/
def warningsAbout (tags : Json) : List String :=
  (validate tags).warnings.map fun w => "Warning: " ++ w.message

/-- How a command ends that has complaints. -/
def refusal (warnings : List String) (complaints : List Complaint) : Outcome where
  exit := 2
  stderr := warnings ++ complaints.map fun c => "Error: " ++ c.placed

/-- A failure with complaints, put behind the warnings, is the refusal. -/
theorem failed_after (warnings : List String) (complaints : List Complaint) :
    (Outcome.failed 2 (complaints.map Complaint.placed)).after warnings =
      refusal warnings complaints := by
  rw [Outcome.failed, List.map_map]
  rfl

section

variable {text : Option String} {title : Option Text} {tags : Json} {page : Int} {size : Option Int}

/-- Criteria that were read can be written. -/
theorem numbersFit_of_readCriteria (hread : readCriteria text = .ok tags) : tags.NumbersFit := by
  cases text with
  | none =>
      obtain rfl := Except.ok.inj hread
      exact Json.numbersFit_of_numbers_eq_nil rfl
  | some text => exact Json.numbersFit_of_read hread

/-- The criteria of a command are taken with their warnings, or refused. -/
theorem parseTagsArgument_ofOption (hread : readCriteria text = .ok tags) :
    Command.parseTagsArgument (.ofOption text) =
      if (validate tags).isValid then .ok (tags, warningsAbout tags)
      else .error (.ended (refusal (warningsAbout tags) (searchComplaints tags page size))) := by
  have hwarnings : Command.warningLines (.ofVerdict (validate tags)) = warningsAbout tags :=
    List.map_map
  cases text with
  | none =>
      cases hread
      rfl
  | some text =>
      have htext : Json.read text = .ok tags := hread
      show (Command.parseTags text).map _ = _
      rw [Command.parseTags_of_read htext]
      by_cases hvalid : (validate tags).isValid = true
      · rw [if_pos hvalid, if_pos hvalid, ← hwarnings]
        rfl
      · have hmessages : (searchComplaints tags page size).map Complaint.placed =
            (validate tags).errors.map (·.message) := by
          rw [searchComplaints, if_neg hvalid, List.map_map]
          rfl
        rw [if_neg hvalid, if_neg hvalid, ← failed_after, hmessages, ← hwarnings]
        rfl

/-- Where the criteria are valid, the page alone can be complained about. -/
theorem searchComplaints_of_valid (h : (validate tags).isValid = true) :
    searchComplaints tags page size = pageComplaints page size := if_pos h

/-- Where they are not, there is a complaint. -/
theorem searchComplaints_of_invalid (h : ¬(validate tags).isValid = true) :
    searchComplaints tags page size ≠ [] := by
  intro hnone
  rw [searchComplaints, if_neg h, List.map_eq_nil_iff] at hnone
  exact h (List.isEmpty_iff.mpr hnone)

/-- Nothing is complained about exactly if criteria and page are in order. -/
theorem searchComplaints_eq_nil_iff :
    searchComplaints tags page size = [] ↔
      (validate tags).isValid = true ∧ pageComplaints page size = [] := by
  by_cases hvalid : (validate tags).isValid = true
  · rw [searchComplaints_of_valid hvalid, and_iff_right hvalid]
  · exact iff_of_false (searchComplaints_of_invalid hvalid) fun h => hvalid h.1

/-- **How the command line is read**: as the request, with the warnings, or as the refusal. -/
theorem parseRequest_ofOption (hread : readCriteria text = .ok tags) :
    Command.parseRequest (.ofOption text) (.ofOption title) (.value page) (.ofOption size) =
      if searchComplaints tags page size = [] then
        .ok (requestOf tags title page size, warningsAbout tags)
      else .error (.ended (refusal (warningsAbout tags) (searchComplaints tags page size))) := by
  rw [Command.parseRequest, parseTagsArgument_ofOption hread, Argument.toJson_ofOption,
    Argument.toJson_ofOption]
  by_cases hvalid : (validate tags).isValid = true
  · have hbind : ∀ f : Json × List String → Except Command.Stop (SearchRequest × List String),
        (Except.ok (tags, warningsAbout tags) >>= f) = f (tags, warningsAbout tags) := fun _ => rfl
    rw [if_pos hvalid, searchComplaints_of_valid hvalid, hbind]
    rcases requestRead_cases hvalid title page size with ⟨hnone, hmade⟩ | ⟨r, hsome, hrefused, -, hplaced⟩
    · rw [requestRead] at hmade
      simp only [Command.pageJson, Argument.toJson, hmade, if_pos hnone]
      rfl
    · rw [requestRead] at hrefused
      simp only [Command.pageJson, Argument.toJson, hrefused, if_neg hsome, hplaced, failed_after]
  · rw [if_neg hvalid, if_neg (searchComplaints_of_invalid hvalid)]
    rfl

variable {m : Type → Type} [Monad m] (run : SearchRequest → m Searched) (metrics : Metrics)

/-- **Without complaints the tool searches**. -/
theorem runTool_of_none (h : searchComplaints tags page size = []) :
    runTool run metrics (.searchFor tags title page size) =
      (do return finishSearch metrics (← run (requestOf tags title page size))) := by
  obtain ⟨hvalid, hnone⟩ := searchComplaints_eq_nil_iff.mp h
  rcases requestRead_cases hvalid title page size with ⟨-, hmade⟩ | ⟨r, hsome, -⟩
  · rw [requestRead] at hmade
    simp [ToolCall.searchFor, runTool, searchTool, report_of_isValid hvalid, Report.ofVerdict, hvalid,
      hmade]
  · exact absurd hnone hsome

/-- **With complaints the tool answers with a report of them**, and nothing is searched. -/
theorem runTool_of_complaints (hfit : tags.NumbersFit) (h : searchComplaints tags page size ≠ []) :
    ∃ tool report, runTool run metrics (.searchFor tags title page size) = pure tool ∧
      tool.answer = .ok (.report report) ∧ report.valid = false ∧
      report.errors = (searchComplaints tags page size).map Complaint.text := by
  by_cases hvalid : (validate tags).isValid = true
  · rw [searchComplaints_of_valid hvalid] at h ⊢
    rcases requestRead_cases hvalid title page size with ⟨hnone, -⟩ | ⟨r, -, hrefused, htexts, -⟩
    · exact absurd hnone h
    · have htool : runTool run metrics (.searchFor tags title page size) =
          pure (.invalidRequest metrics "tags_search" r) := by
        rw [requestRead] at hrefused
        simp [ToolCall.searchFor, runTool, searchTool, report_of_isValid hvalid, Report.ofVerdict,
          hvalid, hrefused]
      exact ⟨_, _, htool, rfl, rfl, htexts⟩
  · have htool : runTool run metrics (.searchFor tags title page size) =
        pure (.invalidCriteria metrics "tags_search" (.ofVerdict (validate tags))) := by
      simp [ToolCall.searchFor, runTool, searchTool, report_of_numbersFit hfit, Report.ofVerdict,
        hvalid]
    have htexts : (validate tags).errors.map (·.message) =
        (searchComplaints tags page size).map Complaint.text := by
      rw [searchComplaints, if_neg hvalid, List.map_map]
      rfl
    exact ⟨_, _, htool, rfl, Bool.eq_false_iff.mpr hvalid, htexts⟩

end

section

variable {m : Type → Type} [Monad m] [LawfulMonad m] {w : World m} {s : Settings}
  {text : Option String} {title : Option Text} {page : Int} {size : Option Int} {path : String}

/-- A search whose arguments are refused ends with the refusal. -/
theorem run_searchFile_of_stop {stop : Command.Stop}
    (h : Command.parseRequest (.ofOption text) (.ofOption title) (.value page) (.ofOption size) =
      .error stop) :
    Command.run w s (.searchFile text title page size path) =
      pure (Command.settle (.error stop)) := by
  have hthrow : (ExceptT.mk (pure (.error stop)) :
      ExceptT Command.Stop m (SearchRequest × List String)) = throw stop := rfl
  simp [Command.searchFile, Command.run, Command.runSearch, h, hthrow]

/-- A search with a request and items ends with the answer to it, behind the warnings. -/
theorem run_searchFile_of_request {tags : Argument String} {title : Argument Text} {page size : Argument Int}
    {request : SearchRequest} {warnings : List String} {bytes : List UInt8} {items : List Item}
    {done : Searched} (h : Command.parseRequest tags title page size = .ok (request, warnings))
    (hentry : w.entry (normalPath path) = pure (.file bytes))
    (hitems : itemsOfBytes (normalPath path) bytes = .ok items)
    (hsearch : w.search s (.catalog (.ofList items)) request = pure done) :
    Command.run w s (.search tags title page size (.value path)) =
      pure ((done.answer >>= SearchResponse.write).map fun text =>
        (Outcome.printed text).after warnings) := by
  have hpure : (ExceptT.mk (pure (.ok (request, warnings))) :
      ExceptT Command.Stop m (SearchRequest × List String)) = pure (request, warnings) := rfl
  cases hwrite : done.answer >>= SearchResponse.write <;>
    simp [Command.run, Command.runSearch, h, hpure, Command.storeToSearch,
      Command.loadItems, World.loadItems, hentry, itemsOfEntry, hitems, Command.searchIn, hsearch,
      Command.attempt, Command.withLines, hwrite, Command.settle, Command.Stop.after, Except.map]

end

/-- The tool gives the answer of a search if it can be written. -/
theorem answer_finishSearch (metrics : Metrics) (done : Searched) :
    (finishSearch metrics done).answer =
      done.answer >>= fun response => response.write.map fun _ => .found response := by
  rw [finishSearch]
  cases done.answer <;> rfl

/-- **What a search comes to on both ways**, on the command line first.  It depends on the warnings and
the complaints about the arguments, and on the answer that the items call for. -/
inductive SameEnd (warnings : List String) (complaints : List Complaint) (answer : SearchResponse) :
    Except Fault Outcome → Except Fault ToolAnswer → Prop
  /-- The command ends with code 2, and both report the complaints in their order. -/
  | refused {report : Report} (hsome : complaints ≠ []) (hinvalid : report.valid = false)
      (herrors : report.errors = complaints.map Complaint.text) :
      SameEnd warnings complaints answer (.ok (refusal warnings complaints)) (.ok (.report report))
  /-- Both write one response, with the items that are called for. -/
  | answered {response : SearchResponse} (hnone : complaints = [])
      (hdata : response.data = answer.data) (hencodable : ∀ item ∈ answer.data, item.Encodable) :
      SameEnd warnings complaints answer
        (.ok { stdout := (ToolAnswer.found response).toText ++ "\n", stderr := warnings })
        (.ok (.found response))
  /-- Both give up, as one of the items cannot be written. -/
  | unwritable {f : EncodingFault} (hnone : complaints = [])
      (hitem : ∃ item ∈ answer.data, ¬item.Encodable) :
      SameEnd warnings complaints answer (.error (.unwritable f)) (.error (.unwritable f))
  /-- Both give up, as there are more items than a floating-point number can count. -/
  | uncountable (hnone : complaints = []) (hmany : 2 ^ 1022 < answer.metadata.totalItems) :
      SameEnd warnings complaints answer (.error .pageCountOverflow) (.error .pageCountOverflow)

/-- **A request without complaints** has the same end on both ways. -/
theorem sameEnd_of_request {limits : PageLimits} {c : Catalog} {r : SearchRequest}
    {warnings : List String} {complaints : List Complaint} (hlimits : limits.InBounds)
    (hr : r.metadata.InBounds) (hnone : complaints = []) :
    SameEnd warnings complaints (r.answer limits c)
      ((r.respond limits (c.find (r.query limits)) >>= SearchResponse.write).map fun text =>
        (Outcome.printed text).after warnings)
      (r.respond limits (c.find (r.query limits)) >>= fun response =>
        response.write.map fun _ => .found response) := by
  rcases SearchRequest.respond_find_or_overflow hlimits hr with
    ⟨response, hresponse, hdata⟩ | ⟨hmany, hoverflow⟩
  · rw [hresponse]
    show SameEnd _ _ _ (response.write.map _) (response.write.map _)
    rcases response.write_cases with ⟨hencodable, hwrite⟩ | ⟨hitem, f, hwrite⟩
    · have hprinted : (Outcome.printed response.toText).after warnings =
          { stdout := (ToolAnswer.found response).toText ++ "\n", stderr := warnings } := by
        rw [Outcome.after, Outcome.printed, List.append_nil]
        rfl
      rw [hwrite]
      show SameEnd _ _ _ (.ok ((Outcome.printed response.toText).after warnings)) _
      rw [hprinted]
      rw [hdata] at hencodable
      exact .answered hnone hdata hencodable
    · rw [hwrite]
      rw [hdata] at hitem
      exact .unwritable hnone hitem
  · rw [hoverflow]
    exact .uncountable hnone hmany

/-- **The command and the tool end alike.**  Whatever the arguments are, as long as the text for the
criteria is JSON, and whatever items a file holds: a search on the command line in that file and the same
search by the tool in a store of those items come to one end. -/
theorem searches_end_alike {m : Type → Type} [Monad m] [LawfulMonad m] (w : World m) {s : Settings}
    (hs : s.limits.InBounds) {text : Option String} {tags : Json}
    (hread : readCriteria text = .ok tags) (title : Option Text) (page : Int) (size : Option Int)
    {path : String} {bytes : List UInt8} {items : List Item}
    (hentry : w.entry (normalPath path) = pure (.file bytes))
    (hitems : itemsOfBytes (normalPath path) bytes = .ok items) (metrics : Metrics) :
    ∃ outcome tool,
      Command.run w s (.searchFile text title page size path) = pure outcome ∧
      runTool (w.search s (.catalog (.ofList items))) metrics (.searchFor tags title page size) =
        pure tool ∧
      SameEnd (warningsAbout tags) (searchComplaints tags page size)
        ((requestOf tags title page size).answer s.limits (.ofList items)) outcome tool.answer := by
  have hparse : Command.parseRequest (.ofOption text) (.ofOption title) (.value page)
      (.ofOption size) = _ := parseRequest_ofOption hread
  by_cases hnone : searchComplaints tags page size = []
  · rw [if_pos hnone] at hparse
    have hr : (requestOf tags title page size).metadata.InBounds :=
      inBounds_of_pageComplaints (searchComplaints_eq_nil_iff.mp hnone).2
    have hsearch : w.search s (.catalog (.ofList items)) (requestOf tags title page size) =
        pure ((requestOf tags title page size).finish s.limits (.ok
          ((Catalog.ofList items).find ((requestOf tags title page size).query s.limits)))) := by
      simp [World.search, TagSearch.search, World.find]
    have htool : runTool (w.search s (.catalog (.ofList items))) metrics
        (.searchFor tags title page size) = _ := runTool_of_none _ metrics hnone
    rw [hsearch, pure_bind] at htool
    refine ⟨_, _, run_searchFile_of_request hparse hentry hitems hsearch, htool, ?_⟩
    rw [answer_finishSearch]
    exact sameEnd_of_request hs hr hnone
  · rw [if_neg hnone] at hparse
    obtain ⟨tool, report, htool, hanswer, hinvalid, herrors⟩ :=
      runTool_of_complaints (w.search s (.catalog (.ofList items))) metrics
        (numbersFit_of_readCriteria hread) hnone
    refine ⟨_, tool, run_searchFile_of_stop hparse, htool, ?_⟩
    rw [hanswer]
    exact .refused hnone hinvalid herrors

/-- A world in which the same file stands at every path. -/
def World.oneFile (text : String) : World Id :=
  { World.bare with entry := fun _ => .file text.toUTF8.toList }

/-- One of two items has tag 7, and both ways answer with it. -/
theorem searches_for_seven_end_alike :
    let file :=
      "[\x7b\"item_id\": 1, \"title\": \"Über\", \"tag_ids\": [7]\x7d, \x7b\"item_id\": \"a\"\x7d]"
    let items : List Item := [⟨.number 1, "Über", [7]⟩, ⟨.text "a", "", []⟩]
    let w := World.oneFile file
    let s : Settings := {}
    s.limits.InBounds ∧ readCriteria (some "[7]") = .ok (.arr [.int 7]) ∧
      w.entry (normalPath "items.json") = pure (.file file.toUTF8.toList) ∧
      itemsOfBytes (normalPath "items.json") file.toUTF8.toList = .ok items ∧
      ∃ response tool,
        Command.run w s (.searchFile (some "[7]") (some "ü") 1 none "items.json") =
          pure (.ok { stdout := (ToolAnswer.found response).toText ++ "\n" }) ∧
        runTool (w.search s (.catalog (.ofList items))) {}
          (.searchFor (.arr [.int 7]) (some "ü") 1 none) = pure tool ∧
        tool.answer = .ok (.found response) ∧ response.data = [⟨.number 1, "Über", [7]⟩] := by
  intro file items w s
  have hs : s.limits.InBounds := ⟨by decide, by decide, by decide⟩
  have hread : readCriteria (some "[7]") = .ok (.arr [.int 7]) := rfl
  have hentry : w.entry (normalPath "items.json") = pure (.file file.toUTF8.toList) := rfl
  have hitems : itemsOfBytes (normalPath "items.json") file.toUTF8.toList = .ok items := by
    decide +kernel
  have hanswer : (requestOf (.arr [.int 7]) (some "ü") 1 none).answer s.limits (.ofList items) =
      ⟨⟨1, 10, 1, 1⟩, [⟨.number 1, "Über", [7]⟩]⟩ := by
    decide +kernel
  obtain ⟨outcome, tool, hcommand, htool, hend⟩ :=
    searches_end_alike w hs hread (some "ü") 1 none hentry hitems {}
  rw [hanswer] at hend
  have hnone : searchComplaints (.arr [.int 7]) 1 none = [] := rfl
  generalize hresult : tool.answer = result at hend
  cases hend with
  | refused hsome => exact absurd hnone hsome
  | answered _ hdata _ => exact ⟨hs, hread, hentry, hitems, _, tool, hcommand, htool, hresult, hdata⟩
  | unwritable _ hitem =>
      obtain ⟨item, hmem, hnot⟩ := hitem
      obtain rfl := List.mem_singleton.mp hmem
      exact absurd ⟨nofun, _, rfl⟩ hnot
  | uncountable _ hmany => exact absurd hmany (not_lt.mpr (one_le_pow₀ one_le_two))

/-- **A lone surrogate in a title stops both ways**, although nothing is wrong with the arguments. -/
theorem surrogate_stops_both :
    let file := "[\x7b\"item_id\": 1, \"title\": \"\\ud800\"\x7d]"
    let w := World.oneFile file
    let s : Settings := {}
    ∃ items f, itemsOfBytes "items.json" file.toUTF8.toList = .ok items ∧
      searchComplaints .null 1 none = [] ∧
      (Command.run w s (.searchFile none none 1 none "items.json")).run = .error (.unwritable f) ∧
      (runTool (w.search s (.catalog (.ofList items))) {} (.searchFor .null none 1 none)).run.answer =
        .error (.unwritable f) := by
  intro file w s
  let item : Item := ⟨.number 1, ⟨"", [(⟨0⟩, "")]⟩, []⟩
  let response : SearchResponse := ⟨⟨1, 10, 1, 1⟩, [item]⟩
  have hsearch : (w.search s (.catalog (.ofList [item])) (requestOf .null none 1 none)).run.answer =
      .ok response := by decide +kernel
  have hwrite : response.write = .error (.unwritable ⟨0, 0xd800, 1⟩) := by decide +kernel
  have hfinish : ∀ x : Id Searched, (do return finishSearch {} (← x) : Id ToolRun).run.answer =
      x.run.answer >>= fun response => response.write.map fun _ => .found response := by
    intro x
    exact answer_finishSearch {} x.run
  refine ⟨[item], ⟨0, 0xd800, 1⟩, by decide +kernel, rfl, by decide +kernel, ?_⟩
  rw [runTool_of_none _ _ rfl, hfinish, hsearch]
  show response.write.map (fun _ => ToolAnswer.found response) = _
  rw [hwrite]
  rfl

end TagSearch
