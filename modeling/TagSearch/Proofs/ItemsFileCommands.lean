import Mathlib.Data.List.Forall2
import TagSearch.Proofs.PointIdentity
import TagSearch.Proofs.SearchFrontEnds

/-!
# Commands on an items file

An items file can be wrong in four ways: its bytes are not UTF-8, the text is not JSON, the value is no
list, or an element of the list is no item.  The commands that take such a file read all of it before they
do anything else, so a file with a flaw has no effect but a message.

1.  A file has a flaw (`ItemsFlaw`) or it holds items, one for each element of its list (`HoldsItems`), and
    not both.  Every flaw is found, and as a fault in the content of the file (`holdsItems_or_flaw`).
2.  With such a fault both commands end with code 1 and one message (`Command.run_seed_of_content`,
    `Command.run_search_of_content`).
3.  Without one, seeding is one upsert of the items (`Command.run_seed_of_items`), and a search comes to
    an end of `SearchEnd` (`Command.run_search_of_items`).

`items_file_all_or_nothing` says so for every content of a file.  What a file holds can still be in the way
after it was read: an id or a title with a surrogate cannot be written, and no point is made of such an id
(`surrogate_id_not_searched`).
-/

namespace TagSearch

/-- What can be wrong with the bytes of an items file. -/
inductive ItemsFlaw (bytes : List UInt8) : Prop
  /-- They are not UTF-8. -/
  | notText {f : Utf8Fault} (h : decodeUtf8 bytes = .error f)
  /-- The text is not read as JSON. -/
  | notJson {text : List Char} {e : Json.ReadError} (htext : decodeUtf8 bytes = .ok text)
      (h : Json.readChars (unifyLineEnds text) = .error e)
  /-- The value is no list. -/
  | notList {v : Json} (hv : Json.ofBytes bytes = .ok v) (h : ∀ vs, v ≠ .arr vs)
  /-- An element of the list is no item. -/
  | notItem {vs : List Json} {v : Json} {r : Rejection} (hvs : Json.ofBytes bytes = .ok (.arr vs))
      (hv : v ∈ vs) (h : Item.ofJson v = .error r)

/-- The bytes are those of a list, and the items are its elements, one by one. -/
def HoldsItems (bytes : List UInt8) (items : List Item) : Prop :=
  ∃ vs, Json.ofBytes bytes = .ok (.arr vs) ∧
    List.Forall₂ (fun v item => Item.ofJson v = .ok item) vs items

/-- The values in a file do not stand inside each other too deeply. -/
def Json.DepthWithinLimits (bytes : List UInt8) : Prop :=
  Json.ofBytes bytes ≠ .error (.unreadableJson .tooDeep)

namespace Item

variable {vs : List Json} {items : List Item}

/-- Where every value is read as an item, their list is read as the list of the items. -/
theorem listOfJson_of_forall₂ (h : List.Forall₂ (fun v item => ofJson v = .ok item) vs items) :
    listOfJson vs = .ok items := by
  induction h with
  | nil => rfl
  | cons hv _ ih =>
      rw [listOfJson, hv, ih]
      rfl

/-- Reading a list stops at an element that is no item, if there is one. -/
theorem listOfJson_cases (vs : List Json) :
    (∃ items, List.Forall₂ (fun v item => ofJson v = .ok item) vs items) ∨
      ∃ v ∈ vs, ∃ r, ofJson v = .error r ∧ listOfJson vs = .error (.rejected r) := by
  induction vs with
  | nil => exact Or.inl ⟨[], .nil⟩
  | cons v rest ih =>
      cases hv : ofJson v with
      | error r =>
          refine Or.inr ⟨v, List.mem_cons_self, r, hv, ?_⟩
          rw [listOfJson, hv]
      | ok item =>
          rcases ih with ⟨others, hothers⟩ | ⟨u, hu, r, hr, hrest⟩
          · exact Or.inl ⟨item :: others, .cons hv hothers⟩
          · refine Or.inr ⟨u, List.mem_cons_of_mem v hu, r, hr, ?_⟩
            rw [listOfJson, hv, hrest]
            rfl

/-- Then each of the values is read as some item. -/
theorem exists_ofJson_of_mem (h : List.Forall₂ (fun v item => ofJson v = .ok item) vs items)
    {v : Json} (hv : v ∈ vs) : ∃ item, ofJson v = .ok item := by
  induction h with
  | nil => cases hv
  | cons hfirst _ ih =>
      rcases List.mem_cons.mp hv with rfl | hrest
      · exact ⟨_, hfirst⟩
      · exact ih hrest

/-- Every item was made of an element. -/
theorem exists_mem_of_ofJson (h : List.Forall₂ (fun v item => ofJson v = .ok item) vs items)
    {item : Item} (hitem : item ∈ items) : ∃ v ∈ vs, ofJson v = .ok item := by
  induction h with
  | nil => cases hitem
  | cons hfirst _ ih =>
      rcases List.mem_cons.mp hitem with rfl | hrest
      · exact ⟨_, List.mem_cons_self, hfirst⟩
      · obtain ⟨v, hv, hmade⟩ := ih hrest
        exact ⟨v, List.mem_cons_of_mem _ hv, hmade⟩

end Item

section

variable {bytes : List UInt8} {items : List Item} {path : String}

/-- **Reading gives the items** that a file holds, and none else. -/
theorem itemsOfBytes_eq_ok_iff : itemsOfBytes path bytes = .ok items ↔ HoldsItems bytes items := by
  constructor
  · intro h
    rw [itemsOfBytes] at h
    split at h
    · cases h
    · rename_i vs hvs
      rcases Item.listOfJson_cases vs with ⟨others, hothers⟩ | ⟨v, -, r, -, hstop⟩
      · obtain rfl := Except.ok.inj (h.symm.trans (Item.listOfJson_of_forall₂ hothers))
        exact ⟨vs, hvs, hothers⟩
      · cases h.symm.trans hstop
    · cases h
  · rintro ⟨vs, hvs, hitems⟩
    rw [itemsOfBytes, hvs]
    exact Item.listOfJson_of_forall₂ hitems

/-- A value in a file keeps to the limit of digits. -/
theorem Json.numbersFit_of_ofBytes {v : Json} (h : Json.ofBytes bytes = .ok v) : v.NumbersFit := by
  rw [ofBytes] at h
  split at h
  · cases h
  · rename_i text _
    rw [readChars] at h
    cases hread : readText .loose (unifyLineEnds text) with
    | error f =>
        rw [hread] at h
        cases h
    | ok value =>
        rw [hread] at h
        obtain rfl := Except.ok.inj h
        exact numbersFit_of_readText hread

/-- **The numbers that identify the items of a file can be written.** -/
theorem HoldsItems.fitsText (h : HoldsItems bytes items) {item : Item} (hitem : item ∈ items) {n : Int}
    (hid : item.id = .number n) : TagSearch.fitsText n = true := by
  obtain ⟨vs, hvs, hitems⟩ := h
  have hfit := Json.numbersFit_arr_iff.mp (Json.numbersFit_of_ofBytes hvs)
  obtain ⟨v, hv, hmade⟩ := Item.exists_mem_of_ofJson hitems hitem
  exact Item.fitsText_of_ofJson (hfit v hv) hmade hid

/-- A file that is not given up for its nesting keeps within the limits. -/
theorem Json.depthWithinLimits_of_itemsOfBytes
    (h : itemsOfBytes path bytes ≠ .error (.unreadableJson .tooDeep)) : DepthWithinLimits bytes := by
  intro hdeep
  refine h ?_
  rw [itemsOfBytes, hdeep]

/-- **A file has no flaw when it holds items.** -/
theorem ItemsFlaw.not_holdsItems (h : ItemsFlaw bytes) : ¬HoldsItems bytes items := by
  intro hholds
  obtain ⟨vs, hvs, hitems⟩ := hholds
  cases h with
  | notText h =>
      rw [Json.ofBytes, h] at hvs
      cases hvs
  | notJson htext h =>
      rw [Json.ofBytes, htext] at hvs
      simp only [h] at hvs
      cases hvs
  | notList hv h => exact h vs (Except.ok.inj (hv.symm.trans hvs))
  | notItem hus hv h =>
      obtain rfl := Json.arr.inj (Except.ok.inj (hus.symm.trans hvs))
      obtain ⟨item, hitem⟩ := Item.exists_ofJson_of_mem hitems hv
      cases h.symm.trans hitem

/-- A value holds items, or there is a flaw in it. -/
theorem holdsItems_or_flaw_of_value {v : Json} (hread : Json.ofBytes bytes = .ok v) (path : String) :
    (∃ items, HoldsItems bytes items) ∨
      ItemsFlaw bytes ∧ ∃ f, itemsOfBytes path bytes = .error f ∧ f.isContent = true := by
  by_cases hlist : ∃ vs, v = .arr vs
  · obtain ⟨vs, rfl⟩ := hlist
    rcases Item.listOfJson_cases vs with ⟨items, hitems⟩ | ⟨u, hu, r, hr, hstop⟩
    · exact Or.inl ⟨items, vs, hread, hitems⟩
    · refine Or.inr ⟨.notItem hread hu hr, .rejected r, ?_, rfl⟩
      rw [itemsOfBytes, hread]
      exact hstop
  · have hother : ∀ vs, v ≠ .arr vs := fun vs hv => hlist ⟨vs, hv⟩
    refine Or.inr ⟨.notList hread hother, .notItems path v.kindName, ?_, rfl⟩
    rw [itemsOfBytes, hread]
    cases v with
    | arr vs => exact absurd rfl (hother vs)
    | _ => rfl

/-- **A file that holds no items has a flaw**, and reading it comes to a fault in its content. -/
theorem holdsItems_or_flaw (hlimits : Json.DepthWithinLimits bytes) (path : String) :
    (∃ items, HoldsItems bytes items) ∨
      ItemsFlaw bytes ∧ ∃ f, itemsOfBytes path bytes = .error f ∧ f.isContent = true := by
  cases htext : decodeUtf8 bytes with
  | error f =>
      refine Or.inr ⟨.notText htext, .undecodable f, ?_, rfl⟩
      rw [itemsOfBytes, Json.ofBytes, htext]
  | ok text =>
      have hread : Json.ofBytes bytes =
          (Json.readChars (unifyLineEnds text)).mapError .unreadableJson := by
        rw [Json.ofBytes, htext]
      cases hjson : Json.readChars (unifyLineEnds text) with
      | error e =>
          rw [hjson] at hread
          have hdeep : e ≠ .tooDeep := by
            intro he
            rw [he] at hread
            exact hlimits hread
          refine Or.inr ⟨.notJson htext hjson, .unreadableJson e, ?_, ?_⟩
          · rw [itemsOfBytes, hread]
            rfl
          · simpa [Fault.isContent] using hdeep
      | ok v =>
          rw [hjson] at hread
          exact holdsItems_or_flaw_of_value hread path

end

/-- **Putting items into a store** is refused before anything is sent if an id has no point, and otherwise
all of them are taken. -/
theorem World.upsert_cases {m : Type → Type} [Monad m] [LawfulMonad m] (w : World m)
    (items : List Item) (store : OpenStore) :
    (∃ sending : m Unit, w.upsert items store = (do sending; return .ok items.length)) ∨
      ∃ item ∈ items, ∃ itemNamespace f, item.id.hasPoint = false ∧
        item.id.pointId itemNamespace = .error f ∧ w.upsert items store = pure (.error f) := by
  cases store with
  | catalog c => exact Or.inl ⟨pure (), by simp [World.upsert]⟩
  | points s =>
      by_cases hpoints : ∀ item ∈ items, item.id.hasPoint = true
      · have hbatch := mapM_point_of_defined (s := s) fun item hitem =>
          ItemId.pointId_of_hasPoint (hpoints item hitem)
        cases hitems : items.map (Item.knownPoint s) with
        | nil =>
            refine Or.inl ⟨pure (), ?_⟩
            obtain rfl := List.map_eq_nil_iff.mp hitems
            simp [World.upsert, PointStore.upsert, hbatch]
        | cons first rest =>
            refine Or.inl ⟨do
              w.points.connect ⟨s.host, s.port, s.timeout⟩
              w.points.upsert s.collection (first :: rest), ?_⟩
            have hlength : (first :: rest).length = items.length := by rw [← hitems, List.length_map]
            rw [hitems] at hbatch
            simp [World.upsert, PointStore.upsert, hbatch, PointStore.connect, ← hlength]
      · simp only [not_forall, Bool.not_eq_true, exists_prop] at hpoints
        obtain ⟨item, hitem, f, hnone, hfault, hbatch⟩ := mapM_point_of_not_hasPoint (s := s) hpoints
        refine Or.inr ⟨item, hitem, s.itemNamespace, f, hnone, hfault, ?_⟩
        simp [World.upsert, PointStore.upsert, hbatch]

/-- The items of a file have ids that can be written, so an id without a point has no encoding. -/
theorem HoldsItems.upsert_cases {m : Type → Type} [Monad m] [LawfulMonad m] {bytes : List UInt8}
    {items : List Item} (h : HoldsItems bytes items) (w : World m) (store : OpenStore) :
    (∃ sending : m Unit, w.upsert items store = (do sending; return .ok items.length)) ∨
      (∃ item ∈ items, item.id.hasPoint = false) ∧
        ∃ f, w.upsert items store = pure (.error (.unencodable f)) := by
  rcases w.upsert_cases items store with hsent | ⟨item, hitem, itemNamespace, f, hnone, hfault, hrun⟩
  · exact Or.inl hsent
  · refine Or.inr ⟨⟨item, hitem, hnone⟩, ?_⟩
    rcases ItemId.pointId_of_not_hasPoint hnone with ⟨n, hid, hlong, -⟩ | ⟨g, hg⟩
    · cases (h.fitsText hitem hid).symm.trans hlong
    · obtain rfl := Except.error.inj (hfault.symm.trans hg)
      exact ⟨g, hrun⟩

/-- How a command ends that has found a fault in the content of its file. -/
def Command.invalidFile (path : String) (f : Fault) : Outcome :=
  .failed 1 ["invalid items file " ++ path ++ ": " ++ f.message]

/-- How seeding ends when the items of a file were put in. -/
def Command.seeded (path : String) (items : List Item) (count : Nat) : Outcome :=
  .printed s!"Adding {items.length} items from {path}...\nSuccessfully added {count} items."

/-- A fault in the content of a file ends a command with the message about the file. -/
theorem Command.stopOfFile_of_isContent {f : Fault} (hf : f.isContent = true) (path : String) :
    stopOfFile path f = .ended (invalidFile path f) := by
  have habsence : f.isAbsence = false := by
    cases f with
    | fileNotFound | notDirectory | nullInPath => cases hf
    | _ => rfl
  rw [stopOfFile, habsence, hf]
  rfl

/-- A path that is given is normalized, and nothing more is asked. -/
theorem Command.lift_pathToLoad {m : Type → Type} [Monad m] {path : String} :
    (ExceptT.mk (pure (pathToLoad (.value path))) : ExceptT Stop m String) =
      pure (normalPath path) := rfl

section

variable {m : Type → Type} [Monad m] [LawfulMonad m] {w : World m} {s : Settings} {path : String}
  {bytes : List UInt8}

/-- A file with items is loaded. -/
theorem Command.loadItems_of_items {items : List Item} (hentry : w.entry path = pure (.file bytes))
    (hitems : itemsOfBytes path bytes = .ok items) : loadItems w path = pure items := by
  simp [loadItems, World.loadItems, hentry, itemsOfEntry, hitems]

/-- A file with a fault in its content ends the command that loads it. -/
theorem Command.loadItems_of_content {f : Fault} (hentry : w.entry path = pure (.file bytes))
    (hitems : itemsOfBytes path bytes = .error f) (hf : f.isContent = true) :
    loadItems w path = throw (.ended (invalidFile path f)) := by
  simp [loadItems, World.loadItems, hentry, itemsOfEntry, hitems, stopOfFile_of_isContent hf]

/-- A step that may give up, run. -/
theorem Command.run_attempt_bind {α β : Type} (step : m (Except Fault α))
    (rest : α → ExceptT Stop m β) :
    (attempt step >>= rest).run = step >>= fun answer =>
      match answer with
      | .ok a => (rest a).run
      | .error f => pure (.error (.gaveUp f)) := by
  have hlift : (liftM step : ExceptT Stop m (Except Fault α)) = ExceptT.lift step := rfl
  rw [attempt, hlift, bind_assoc, ExceptT.run_bind_lift]
  congr 1
  funext answer
  cases answer with
  | ok a => simp
  | error f => simp

/-- **Seeding from a flawed file** ends with the message, and no store is asked. -/
theorem Command.run_seed_of_content {f : Fault}
    (hentry : w.entry (normalPath path) = pure (.file bytes))
    (hitems : itemsOfBytes (normalPath path) bytes = .error f) (hf : f.isContent = true) :
    run w s (.seed (.value path)) = pure (.ok (invalidFile (normalPath path) f)) := by
  simp [run, runSeed, lift_pathToLoad, loadItems_of_content hentry hitems hf, settle]

/-- **Seeding with the items of a file** opens the store and is one upsert of them. -/
theorem Command.run_seed_of_items {items : List Item}
    (hentry : w.entry (normalPath path) = pure (.file bytes))
    (hitems : itemsOfBytes (normalPath path) bytes = .ok items) :
    run w s (.seed (.value path)) = do
      match ← w.openStore s with
      | .ok store => return (← w.upsert items store).map (seeded (normalPath path) items)
      | .error f => return .error f := by
  rw [run, runSeed, lift_pathToLoad, pure_bind, loadItems_of_items hentry hitems, pure_bind,
    run_attempt_bind, bind_assoc]
  congr 1
  funext opened
  cases opened with
  | error f => simp [settle]
  | ok store =>
      show (attempt (w.upsert items store) >>= _).run >>= _ = _
      rw [run_attempt_bind, bind_assoc]
      congr 1
      funext answer
      cases answer with
      | ok count => simp [settle, Except.map, seeded]
      | error f => simp [settle, Except.map]

/-- **So does a search in one**, behind the warnings about the criteria. -/
theorem Command.run_search_of_content {tags : Argument String} {title : Argument Text}
    {page size : Argument Int} {request : SearchRequest} {warnings : List String} {f : Fault}
    (h : parseRequest tags title page size = .ok (request, warnings))
    (hentry : w.entry (normalPath path) = pure (.file bytes))
    (hitems : itemsOfBytes (normalPath path) bytes = .error f) (hf : f.isContent = true) :
    run w s (.search tags title page size (.value path)) =
      pure (.ok ((invalidFile (normalPath path) f).after warnings)) := by
  have hpure : (ExceptT.mk (pure (.ok (request, warnings))) :
      ExceptT Stop m (SearchRequest × List String)) = pure (request, warnings) := rfl
  simp [run, runSearch, h, hpure, storeToSearch, loadItems_of_content hentry hitems hf, withLines,
    settle, Stop.after]

end

/-- A request that was read from its parts has its page within bounds. -/
theorem SearchRequest.inBounds_of_ofParts {tags title page size : Json} {r : SearchRequest}
    (h : ofParts tags title page size = .ok r) : r.metadata.InBounds := by
  unfold ofParts at h
  obtain ⟨criteria, -, hrest⟩ := Scalar.of_bind_eq_ok h
  obtain ⟨metadata, hmetadata, hr⟩ := Scalar.of_bind_eq_ok hrest
  obtain rfl := Except.ok.inj hr
  exact PageRequest.inBounds_of_decode (Checked.conclude_eq_ok_iff.mp hmetadata)

/-- A request that was read from the command line asks for a page within the bounds. -/
theorem Command.inBounds_of_parseRequest {tags : Argument String} {title : Argument Text}
    {page size : Argument Int} {request : SearchRequest} {warnings : List String}
    (h : parseRequest tags title page size = .ok (request, warnings)) :
    request.metadata.InBounds := by
  obtain ⟨⟨criteria, ws⟩, -, hrest⟩ := Scalar.of_bind_eq_ok h
  cases hparts : SearchRequest.ofParts criteria (title.toJson .str)
      (pageJson page) (size.toJson .int) with
  | error r =>
      simp [hparts] at hrest
  | ok made =>
      simp only [hparts] at hrest
      obtain ⟨rfl, -⟩ := Prod.mk.inj (Except.ok.inj hrest)
      exact SearchRequest.inBounds_of_ofParts hparts

/-- **What a search in a file of items comes to** on the command line, by the answer that the items call
for. -/
inductive SearchEnd (warnings : List String) (answer : SearchResponse) : Except Fault Outcome → Prop
  /-- A response is printed, with the items that are called for. -/
  | answered {response : SearchResponse} (hdata : response.data = answer.data)
      (hencodable : ∀ item ∈ answer.data, item.Encodable) :
      SearchEnd warnings answer (.ok { stdout := response.toText ++ "\n", stderr := warnings })
  /-- One of the items cannot be written. -/
  | unwritable {f : EncodingFault} (hitem : ∃ item ∈ answer.data, ¬item.Encodable) :
      SearchEnd warnings answer (.error (.unwritable f))
  /-- There are more items than a floating-point number can count. -/
  | uncountable (hmany : 2 ^ 1022 < answer.metadata.totalItems) :
      SearchEnd warnings answer (.error .pageCountOverflow)

/-- A response is printed if the items can be written and counted. -/
theorem SearchEnd.exists_response {warnings : List String} {answer : SearchResponse}
    {outcome : Except Fault Outcome} (h : SearchEnd warnings answer outcome)
    (hencodable : ∀ item ∈ answer.data, item.Encodable)
    (hfew : answer.metadata.totalItems ≤ 2 ^ 1022) :
    ∃ response : SearchResponse, response.data = answer.data ∧
      outcome = .ok ((Outcome.printed response.toText).after warnings) := by
  cases h with
  | answered hdata _ =>
      refine ⟨_, hdata, ?_⟩
      rw [Outcome.after, Outcome.printed, List.append_nil]
  | unwritable hitem =>
      obtain ⟨item, hmem, hnot⟩ := hitem
      exact absurd (hencodable item hmem) hnot
  | uncountable hmany => exact absurd hmany hfew.not_gt

/-- A search that is not given up ends with code 0. -/
theorem SearchEnd.exit_eq_zero {warnings : List String} {answer : SearchResponse} {outcome : Outcome}
    (h : SearchEnd warnings answer (.ok outcome)) : outcome.exit = 0 := by
  cases h
  rfl

/-- The end that both ways share without complaints is one of those of a search. -/
theorem SameEnd.searchEnd {warnings : List String} {answer : SearchResponse}
    {outcome : Except Fault Outcome} {tool : Except Fault ToolAnswer}
    (h : SameEnd warnings [] answer outcome tool) : SearchEnd warnings answer outcome := by
  cases h with
  | refused hsome => exact absurd rfl hsome
  | answered _ hdata hencodable => exact .answered hdata hencodable
  | unwritable _ hitem => exact .unwritable hitem
  | uncountable _ hmany => exact .uncountable hmany

section

variable {m : Type → Type} [Monad m] [LawfulMonad m] {w : World m} {s : Settings} {path : String}
  {bytes : List UInt8}

/-- **A search in a good file** comes to such an end, on the answer for the items of the file. -/
theorem Command.run_search_of_items {tags : Argument String} {title : Argument Text}
    {page size : Argument Int} {request : SearchRequest} {warnings : List String}
    {items : List Item} (hs : s.limits.InBounds)
    (h : parseRequest tags title page size = .ok (request, warnings))
    (hentry : w.entry (normalPath path) = pure (.file bytes))
    (hitems : itemsOfBytes (normalPath path) bytes = .ok items) :
    ∃ outcome, run w s (.search tags title page size (.value path)) = pure outcome ∧
      SearchEnd warnings (request.answer s.limits (.ofList items)) outcome := by
  have hsearch : w.search s (.catalog (.ofList items)) request =
      pure (request.finish s.limits (.ok ((Catalog.ofList items).find (request.query s.limits)))) := by
    simp [World.search, TagSearch.search, World.find]
  exact ⟨_, run_searchFile_of_request h hentry hitems hsearch,
    (sameEnd_of_request hs (inBounds_of_parseRequest h) rfl).searchEnd⟩

end

/-- **A file of items is taken as a whole or not at all.**  Whatever bytes a file holds, as long as the
values in it do not stand inside each other too deeply:

* it has a flaw exactly if it does not hold items;
* with a flaw, seeding and searching are nothing but an end with code 1 and a message, whatever the store
  and the world are;
* without one, seeding opens the store and is one upsert, of an item for each element in the order of the
  file, which takes all of them unless an id has no encoding;
* and a search comes to an end of `SearchEnd`, and ends with code 0 if it is not given up.  So it ends
  with code 1 exactly if the file has a flaw. -/
theorem items_file_all_or_nothing {m : Type → Type} [Monad m] [LawfulMonad m] (w : World m)
    {s : Settings} (hs : s.limits.InBounds) {path : String} {bytes : List UInt8}
    (hentry : w.entry (normalPath path) = pure (.file bytes)) (hlimits : Json.DepthWithinLimits bytes) :
    (ItemsFlaw bytes ↔ ¬∃ items, HoldsItems bytes items) ∧
    (ItemsFlaw bytes → ∃ f, itemsOfBytes (normalPath path) bytes = .error f ∧
      Command.run w s (.seed (.value path)) =
        pure (.ok (Command.invalidFile (normalPath path) f)) ∧
      ∀ {tags title page size request warnings},
        Command.parseRequest tags title page size = .ok (request, warnings) →
        Command.run w s (.search tags title page size (.value path)) =
          pure (.ok ((Command.invalidFile (normalPath path) f).after warnings))) ∧
    ∀ {items}, HoldsItems bytes items →
      (Command.run w s (.seed (.value path)) = do
        match ← w.openStore s with
        | .ok store =>
          return (← w.upsert items store).map (Command.seeded (normalPath path) items)
        | .error f => return .error f) ∧
      (∀ store, (∃ sending : m Unit, w.upsert items store = do sending; return .ok items.length) ∨
        (∃ item ∈ items, item.id.hasPoint = false) ∧
          ∃ f, w.upsert items store = pure (.error (.unencodable f))) ∧
      ∀ {tags title page size request warnings},
        Command.parseRequest tags title page size = .ok (request, warnings) →
        ∃ outcome, Command.run w s (.search tags title page size (.value path)) = pure outcome ∧
          SearchEnd warnings (request.answer s.limits (.ofList items)) outcome ∧
          ∀ ending, outcome = .ok ending → ending.exit = 0 := by
  refine ⟨⟨?_, ?_⟩, ?_, ?_⟩
  · rintro hflaw ⟨items, hholds⟩
    exact hflaw.not_holdsItems hholds
  · intro hnone
    exact ((holdsItems_or_flaw hlimits path).resolve_left hnone).1
  · intro hflaw
    have hnone : ¬∃ items, HoldsItems bytes items := fun ⟨_, hholds⟩ => hflaw.not_holdsItems hholds
    obtain ⟨-, f, hf, hcontent⟩ :=
      (holdsItems_or_flaw hlimits (normalPath path)).resolve_left hnone
    exact ⟨f, hf, Command.run_seed_of_content hentry hf hcontent,
      fun h => Command.run_search_of_content h hentry hf hcontent⟩
  · intro items hholds
    have hitems : itemsOfBytes (normalPath path) bytes = .ok items :=
      itemsOfBytes_eq_ok_iff.mpr hholds
    refine ⟨Command.run_seed_of_items hentry hitems, hholds.upsert_cases w, ?_⟩
    intro tags title page size request warnings h
    obtain ⟨outcome, hrun, hend⟩ := Command.run_search_of_items hs h hentry hitems
    refine ⟨outcome, hrun, hend, ?_⟩
    rintro ending rfl
    exact hend.exit_eq_zero

/-- A list of two items is put in and found, and a list whose last element is no item is neither. -/
theorem last_item_decides :
    let good := "[\x7b\"item_id\": 1\x7d, \x7b\"item_id\": \"a\"\x7d]"
    let bad := "[\x7b\"item_id\": 1\x7d, \x7b\"title\": \"a\"\x7d]"
    let items : List Item := [⟨.number 1, "", []⟩, ⟨.text "a", "", []⟩]
    let f : Fault := .rejected ⟨"ItemRecord", .data, [⟨[.name "item_id"], .missing⟩]⟩
    let s : Settings := { backend := .memory }
    let seed : Command := .seed (.value "i.json")
    let search : Command := .search .absent .absent .absent .absent (.value "i.json")
    let stopped := Command.invalidFile (normalPath "i.json") f
    s.limits.InBounds ∧
      HoldsItems good.toUTF8.toList items ∧ Json.DepthWithinLimits good.toUTF8.toList ∧
      ItemsFlaw bad.toUTF8.toList ∧ Json.DepthWithinLimits bad.toUTF8.toList ∧
      Command.run (.oneFile good) s seed =
        pure (.ok (Command.seeded (normalPath "i.json") items 2)) ∧
      Command.run (.oneFile bad) s seed = pure (.ok stopped) ∧
      Command.run (.oneFile bad) s search = pure (.ok stopped) ∧
      ∃ response : SearchResponse, response.data = items ∧
        Command.run (.oneFile good) s search =
          pure (.ok ((Outcome.printed response.toText).after [])) ∧
        ((Outcome.printed response.toText).after []).exit = 0 := by
  intro good bad items f s seed search stopped
  have hs : s.limits.InBounds := ⟨by decide, by decide, by decide⟩
  have hgood : itemsOfBytes (normalPath "i.json") good.toUTF8.toList = .ok items := by
    decide +kernel
  have hbad : itemsOfBytes (normalPath "i.json") bad.toUTF8.toList = .error f := by
    decide +kernel
  have hdeepGood : Json.DepthWithinLimits good.toUTF8.toList :=
    Json.depthWithinLimits_of_itemsOfBytes (by rw [hgood]; nofun)
  have hdeepBad : Json.DepthWithinLimits bad.toUTF8.toList :=
    Json.depthWithinLimits_of_itemsOfBytes (by rw [hbad]; decide)
  have hholds : HoldsItems good.toUTF8.toList items := itemsOfBytes_eq_ok_iff.mp hgood
  let request : SearchRequest := ⟨some ⟨none, none⟩, ⟨1, none⟩⟩
  have hparse : Command.parseRequest .absent .absent .absent .absent = .ok (request, []) := rfl
  have hanswer : request.answer s.limits (.ofList items) = ⟨⟨1, 10, 2, 1⟩, items⟩ := by
    decide +kernel
  have hentry : ∀ text, (World.oneFile text).entry (normalPath "i.json") =
      pure (.file text.toUTF8.toList) := fun _ => rfl
  obtain ⟨-, -, hwhole⟩ := items_file_all_or_nothing (.oneFile good) hs (hentry good) hdeepGood
  obtain ⟨hflaw, hnothing, -⟩ := items_file_all_or_nothing (.oneFile bad) hs (hentry bad) hdeepBad
  have hno : ItemsFlaw bad.toUTF8.toList := by
    refine hflaw.mpr ?_
    rintro ⟨others, hothers⟩
    cases hbad.symm.trans (itemsOfBytes_eq_ok_iff.mpr hothers)
  obtain ⟨g, hg, hseed, hsearch⟩ := hnothing hno
  obtain rfl := Except.error.inj (hbad.symm.trans hg)
  obtain ⟨hput, -, hfound⟩ := hwhole hholds
  obtain ⟨outcome, hrun, hend, hexit⟩ := hfound hparse
  rw [hanswer] at hend
  have hencodable : ∀ item ∈ items, item.Encodable := by
    refine List.forall_mem_cons.mpr ⟨⟨nofun, "", rfl⟩, List.forall_mem_singleton.mpr ⟨?_, "", rfl⟩⟩
    intro t ht
    exact ⟨"a", (ItemId.text.inj ht).symm⟩
  obtain ⟨response, hdata, rfl⟩ :=
    hend.exists_response hencodable (le_self_pow₀ one_le_two (Nat.succ_ne_zero _))
  exact ⟨hs, hholds, hdeepGood, hno, hdeepBad, hput, hseed, hsearch hparse, response, hdata, hrun,
    hexit _ rfl⟩

/-- **An id that is a lone surrogate is read but stays in the way**: the search that finds it cannot write
its response, and no point can be made of it. -/
theorem surrogate_id_not_searched :
    let file := "[\x7b\"item_id\": \"\\udfff\"\x7d]"
    let w := World.oneFile file
    let s : Settings := {}
    ∃ items f request, HoldsItems file.toUTF8.toList items ∧
      Json.DepthWithinLimits file.toUTF8.toList ∧
      Command.parseRequest .absent .absent .absent .absent = .ok (request, []) ∧
      (Command.run w s (.search .absent .absent .absent .absent (.value "i.json"))).run =
        .error (.unwritable f) ∧
      (Command.run w s (.seed (.value "i.json"))).run = .error (.unencodable f) := by
  intro file w s
  let item : Item := ⟨.text ⟨"", [(⟨0x7ff⟩, "")]⟩, "", []⟩
  have hitems : itemsOfBytes "i.json" file.toUTF8.toList = .ok [item] := by decide +kernel
  have hdeep : Json.DepthWithinLimits file.toUTF8.toList :=
    Json.depthWithinLimits_of_itemsOfBytes (by rw [hitems]; nofun)
  refine ⟨[item], ⟨0, 0xdfff, 1⟩, _, itemsOfBytes_eq_ok_iff.mp hitems, hdeep, rfl, ?_, ?_⟩
  · decide +kernel
  · decide +kernel

end TagSearch
