import TagSearch.Proofs.ItemRecords
import TagSearch.Search.Service

/-!
# Responses come back

A response is written with one member a line and read as strict JSON, and the reader checks again what the
summary of a page has to keep to.

1.  Whatever a search answers, its summary keeps the bounds, as it was checked once when it was made
    (`PageInfo.inBounds_of_build`).
2.  The record of a response with such a summary is the response (`SearchResponse.decode_toJson`).
3.  The record is plain if the items have an encoding, and it is nested four deep, so that its numbers are
    all that a reader can object to (`limitFault?_toJson_eq_none_iff`).

`search_answers_come_back` puts these together for a search in any store.
-/

namespace TagSearch

/-- What the summary of a page keeps to. -/
structure PageInfo.InBounds (p : PageInfo) : Prop where
  page_pos : 1 ≤ p.currentPage
  size_pos : 1 ≤ p.pageSize
  items_nonneg : 0 ≤ p.totalItems
  pages_nonneg : 0 ≤ p.totalPages

namespace PageInfo

/-- A page summary that is accepted has its numbers in order. -/
theorem inBounds_of_decode {v : Json} {p : PageInfo} (h : decode v = .accepted p) : p.InBounds := by
  have hleast : ∀ {name : String} {least n : Int} {members : Json.Members},
      Checked.required name (.integerFrom least) members = .accepted n → least ≤ n := by
    intro name least n members hn
    obtain ⟨w, -, hw⟩ := Checked.of_required_eq_accepted hn
    exact Checked.le_of_integerFrom hw
  obtain ⟨members, -, hfields⟩ := Checked.of_record_eq_accepted h
  obtain ⟨_, pages, hthree, hpages, rfl⟩ := Checked.seq_eq_accepted_iff.mp hfields
  obtain ⟨_, items, htwo, hitems, rfl⟩ := Checked.seq_eq_accepted_iff.mp hthree
  obtain ⟨_, size, hone, hsize, rfl⟩ := Checked.seq_eq_accepted_iff.mp htwo
  obtain ⟨page, hpage, rfl⟩ := Checked.fmap_eq_accepted_iff.mp hone
  exact ⟨hleast hpage, hleast hsize, hleast hitems, hleast hpages⟩

/-- **A summary that was made keeps the bounds.** -/
theorem inBounds_of_build {page size total : Int} {p : PageInfo} (h : build page size total = .ok p) :
    p.InBounds := by
  obtain ⟨pages, -, hmade⟩ := Scalar.of_bind_eq_ok h
  dsimp only at hmade
  cases hread : decode (toJson ⟨page, size, total, pages⟩) with
  | accepted q =>
      rw [hread] at hmade
      obtain rfl := Except.ok.inj hmade
      exact inBounds_of_decode hread
  | refused issues =>
      rw [hread] at hmade
      cases hmade

end PageInfo

/-- The indented layout puts nothing but blanks between the parts of a value. -/
theorem Json.Layout.isBlank_indented (charset : Charset) : (Layout.indented charset).IsBlank := by
  have hline : ∀ level, ∀ c ∈ newLine level, isBlank c = true := by
    intro level c hc
    rcases List.mem_cons.mp hc with rfl | hspace
    · rfl
    · obtain rfl := List.eq_of_mem_replicate hspace
      rfl
  exact ⟨hline, hline, hline, fun c hc => by
    obtain rfl := List.mem_singleton.mp hc
    rfl⟩

namespace PageInfo

/-- The whole numbers in the summary of a page. -/
def numbers (p : PageInfo) : List Int := [p.currentPage, p.pageSize, p.totalItems, p.totalPages]

/-- A page summary is plain. -/
theorem isPlain_toJson (p : PageInfo) : p.toJson.IsPlain := by
  have hfields : p.toJson = .obj (Json.named [("current_page", .int p.currentPage),
      ("page_size", .int p.pageSize), ("total_items", .int p.totalItems),
      ("total_pages", .int p.totalPages)]) := rfl
  have hdistinct : ["current_page", "page_size", "total_items", "total_pages"].Nodup := by decide
  rw [hfields]
  refine Json.isPlain_named ?_ ?_
  · exact hdistinct
  · intro value hvalue
    obtain ⟨n, -, rfl⟩ : ∃ n ∈ p.numbers, Json.int n = value := List.mem_map.mp hvalue
    exact .int n

/-- It is within the limits if its numbers are. -/
theorem limitFault?_toJson_eq_none_iff {d : Json.Dialect} {p : PageInfo} :
    p.toJson.limitFault? d 1 = none ↔ ∀ n ∈ p.numbers, d.Takes n := by
  have hvalues : [Json.int p.currentPage, .int p.pageSize, .int p.totalItems, .int p.totalPages] =
      p.numbers.map .int := rfl
  rw [toJson, Json.limitFault?_obj_shallow (by decide), List.map_cons, List.map_cons, List.map_cons,
    List.map_cons, List.map_nil, hvalues, List.forall_mem_map]
  simp only [Json.limitFault?, Json.intFault?_eq_none_iff]

end PageInfo

namespace SearchResponse

/-- The whole numbers in a response: those of its summary and those of its items. -/
def numbers (r : SearchResponse) : List Int := r.metadata.numbers ++ r.data.flatMap Item.numbers

variable {r : SearchResponse}

/-- **A response is read back from its record** if the summary keeps the bounds. -/
theorem decode_toJson (h : r.metadata.InBounds) : decode r.toJson = .accepted r := by
  have hmetadata : PageInfo.decode r.metadata.toJson = .accepted r.metadata :=
    PageInfo.decode_toJson h.page_pos h.size_pos h.items_nonneg h.pages_nonneg
  have hdata : Checked.list Item.decode (.arr (r.data.map Item.toJson)) = .accepted r.data :=
    Checked.each_map Item.decode_toJson 0 r.data
  exact Checked.seq_eq_accepted_iff.mpr
    ⟨_, r.data, Checked.fmap_eq_accepted_iff.mpr
      ⟨r.metadata, Checked.required_of_lookup rfl hmetadata, rfl⟩,
      Checked.defaulted_of_lookup rfl hdata, rfl⟩

/-- **The record of a response is plain** if the items on the page have an encoding. -/
theorem isPlain_toJson (h : ∀ item ∈ r.data, item.Encodable) : r.toJson.IsPlain := by
  have hfields : r.toJson = .obj (Json.named [("metadata", r.metadata.toJson),
      ("data", .arr (r.data.map Item.toJson))]) := rfl
  have hdistinct : ["metadata", "data"].Nodup := by decide
  rw [hfields]
  refine Json.isPlain_named ?_ ?_
  · exact hdistinct
  · exact List.forall_mem_cons.mpr
      ⟨r.metadata.isPlain_toJson, List.forall_mem_singleton.mpr (Item.isPlain_list h)⟩

/-- **A reader takes the record of a response** exactly if it takes the numbers in it. -/
theorem limitFault?_toJson_eq_none_iff {d : Json.Dialect} :
    r.toJson.limitFault? d 0 = none ↔ ∀ n ∈ r.numbers, d.Takes n := by
  have hdata : (Json.arr (r.data.map Item.toJson)).limitFault? d 1 = none ↔
      ∀ item ∈ r.data, ∀ n ∈ item.numbers, d.Takes n :=
    Item.limitFault?_list_eq_none_iff (by decide)
  rw [toJson, Json.limitFault?_obj_shallow (by decide), numbers, List.forall_mem_append,
    List.forall_mem_flatMap, ← hdata, ← PageInfo.limitFault?_toJson_eq_none_iff]
  simp only [List.map_cons, List.map_nil, List.forall_mem_cons, List.not_mem_nil, IsEmpty.forall_iff,
    implies_true, and_true]

/-- **A response comes back from its text** exactly if the reader takes the numbers in it. -/
theorem ofText_toText_iff (hbounds : r.metadata.InBounds) (hitems : ∀ item ∈ r.data, item.Encodable) :
    ofText r.toText = .ok r ↔ ∀ n ∈ r.numbers, Json.Dialect.strict.Takes n := by
  have hread : Json.readText .strict r.toText.toList =
      Json.unlessFault (r.toJson.limitFault? .strict 0) r.toJson := by
    rw [toText, Json.indented, String.toList_ofList]
    exact Json.readText_write .strict (Json.Layout.isBlank_indented .unicode) rfl
      (isPlain_toJson hitems)
  rw [ofText, Checked.conclude_eq_ok_iff, Checked.ofText, hread, ← limitFault?_toJson_eq_none_iff]
  cases r.toJson.limitFault? .strict 0 with
  | none => exact iff_of_true (decode_toJson hbounds) rfl
  | some f => exact iff_of_false nofun nofun

/-- The same with the writing, which needs an encoding of every item. -/
theorem comes_back_iff (hbounds : r.metadata.InBounds) :
    (∃ text, r.write = .ok text ∧ ofText text = .ok r) ↔
      (∀ item ∈ r.data, item.Encodable) ∧ ∀ n ∈ r.numbers, Json.Dialect.strict.Takes n := by
  rcases r.write_cases with ⟨hitems, hwrite⟩ | ⟨⟨item, hitem, hnot⟩, f, hwrite⟩
  · rw [← ofText_toText_iff hbounds hitems]
    constructor
    · intro hback
      obtain ⟨text, htext, hread⟩ := hback
      obtain rfl := Except.ok.inj (hwrite.symm.trans htext)
      exact ⟨hitems, hread⟩
    · intro hback
      exact ⟨r.toText, hwrite, hback.2⟩
  · refine iff_of_false ?_ fun hback => hnot (hback.1 item hitem)
    intro hback
    obtain ⟨text, htext, -⟩ := hback
    cases hwrite.symm.trans htext

end SearchResponse

section

variable {limits : PageLimits} {r : SearchRequest} {found : ItemPage}

/-- What a request is answered with has a summary within bounds and the items that were found. -/
theorem SearchRequest.of_respond_eq_ok {response : SearchResponse}
    (h : r.respond limits found = .ok response) :
    response.metadata.InBounds ∧ response.data = found.items := by
  obtain ⟨info, hinfo, hmade⟩ := Scalar.of_bind_eq_ok h
  obtain rfl := Except.ok.inj hmade
  exact ⟨PageInfo.inBounds_of_build hinfo, rfl⟩

/-- Within bounds a request is answered, whatever page of a store it is. -/
theorem SearchRequest.respond_of_inBounds (hlimits : limits.InBounds) (hr : r.metadata.InBounds)
    (hpos : 0 ≤ found.total) (htotal : found.total ≤ 2 ^ 53) :
    ∃ response, r.respond limits found = .ok response := by
  obtain ⟨hsize, hmost⟩ := PageLimits.size_bounds hlimits hr
  rw [respond, PageInfo.build_eq hr.page_pos hsize hpos htotal (not_vanishes_of_lt (by omega))]
  exact ⟨_, rfl⟩

/-- **What a search answers comes back.**  Whatever store is searched and whatever page it finds, a response
has a summary within its bounds and the items that were found, and it comes back from its text exactly if
every id and title on the page has an encoding and the reader takes the numbers.  Within bounds there is a
response to every page with a total from zero to `2 ^ 53`. -/
theorem search_answers_come_back {find : Query → Except Fault ItemPage}
    (hfind : find (r.query limits) = .ok found) :
    (∀ response, (search (m := Id) find limits r).answer = .ok response →
      response.metadata.InBounds ∧ response.data = found.items ∧
        ((∃ text, response.write = .ok text ∧ SearchResponse.ofText text = .ok response) ↔
          (∀ item ∈ found.items, item.Encodable) ∧
            ∀ n ∈ response.numbers, Json.Dialect.strict.Takes n)) ∧
    (limits.InBounds → r.metadata.InBounds → 0 ≤ found.total → found.total ≤ 2 ^ 53 →
      ∃ response, (search (m := Id) find limits r).answer = .ok response) := by
  have hanswer : (search (m := Id) find limits r).answer = r.respond limits found := by
    show (r.finish limits (find (r.query limits))).answer = _
    rw [hfind]
    rfl
  rw [hanswer]
  refine ⟨?_, SearchRequest.respond_of_inBounds⟩
  intro response hresponse
  obtain ⟨hbounds, hdata⟩ := SearchRequest.of_respond_eq_ok hresponse
  refine ⟨hbounds, hdata, ?_⟩
  rw [← hdata]
  exact SearchResponse.comes_back_iff hbounds

end

/-- A title with quotes and line ends, an id of digits that is a text, and an id beyond 64 bits. -/
theorem mixed_page_comes_back :
    let found : ItemPage := ⟨12, [⟨.number (-9223372036854775809), "\"a\\\r\n\u0001é", [-3, 0]⟩,
      ⟨.text "5", "", []⟩]⟩
    let find : Query → Except Fault ItemPage := fun _ => .ok found
    let r : SearchRequest := { metadata := { page := 2 } }
    find (r.query {}) = .ok found ∧ PageLimits.InBounds {} ∧ r.metadata.InBounds ∧
      ∃ response text, (search (m := Id) find {} r).answer = .ok response ∧
        response.metadata.totalPages = 2 ∧ response.data = found.items ∧
        response.write = .ok text ∧ SearchResponse.ofText text = .ok response := by
  intro found find r
  have hlimits : PageLimits.InBounds {} := ⟨by decide, by decide, by decide⟩
  have hr : r.metadata.InBounds := ⟨by decide, nofun⟩
  have hfind : find (r.query {}) = .ok found := rfl
  obtain ⟨hback, hexists⟩ := search_answers_come_back hfind
  obtain ⟨response, hresponse⟩ := hexists hlimits hr (by decide) (by decide)
  obtain ⟨-, hdata, hiff⟩ := hback response hresponse
  have hmade : (search (m := Id) find {} r).answer = .ok ⟨⟨2, 10, 12, 2⟩, found.items⟩ := by
    decide +kernel
  obtain rfl := Except.ok.inj (hresponse.symm.trans hmade)
  have hitems : ∀ item ∈ found.items, item.Encodable := by
    refine List.forall_mem_cons.mpr ⟨⟨nofun, _, rfl⟩, List.forall_mem_singleton.mpr ⟨?_, _, rfl⟩⟩
    intro t ht
    exact ⟨"5", (ItemId.text.inj ht).symm⟩
  have hnumbers : ∀ n ∈ SearchResponse.numbers ⟨⟨2, 10, 12, 2⟩, found.items⟩,
      Json.Dialect.strict.Takes n := by
    intro n hn
    apply Json.intFault?_eq_none_iff.mp
    revert n
    decide +kernel
  obtain ⟨text, hwrite, hread⟩ := hiff.mpr ⟨hitems, hnumbers⟩
  exact ⟨hfind, hlimits, hr, _, text, hresponse, rfl, hdata, hwrite, hread⟩

/-- **Neither a lone surrogate nor a number of 4301 digits comes back** when it is found: a response with the
one in a title is not written, and one with the other for an id is not read. -/
theorem odd_items_do_not_come_back :
    let surrogate : Item := ⟨.number 1, ⟨"a", [(⟨0x480⟩, "")]⟩, []⟩
    let long : Item := ⟨.number (10 ^ maxDigits), "", []⟩
    ∀ item ∈ [surrogate, long], ∃ response,
      (search (m := Id) (fun _ => .ok ⟨1, [item]⟩) {} {}).answer = .ok response ∧
        ¬∃ text, response.write = .ok text ∧ SearchResponse.ofText text = .ok response := by
  intro surrogate long
  have hinfo : PageInfo.build 1 10 1 = .ok ⟨1, 10, 1, 1⟩ := by decide +kernel
  have hbounds : PageInfo.InBounds ⟨1, 10, 1, 1⟩ := ⟨by decide, by decide, by decide, by decide⟩
  have hanswer : ∀ item : Item, (search (m := Id) (fun _ => .ok ⟨1, [item]⟩) {} {}).answer =
      .ok ⟨⟨1, 10, 1, 1⟩, [item]⟩ := by
    intro item
    show (do return ⟨← PageInfo.build 1 10 1, [item]⟩ : Except Fault SearchResponse) = _
    rw [hinfo]
    rfl
  have hsurrogate : ¬surrogate.Encodable := by
    intro hencodable
    obtain ⟨-, title, htitle⟩ := hencodable
    cases htitle
  have hlong : 10 ^ maxDigits ∈ SearchResponse.numbers ⟨⟨1, 10, 1, 1⟩, [long]⟩ :=
    List.mem_append_right _ (List.mem_flatMap.mpr ⟨long, List.mem_cons_self, List.mem_cons_self⟩)
  intro item hitem
  refine ⟨_, hanswer item, ?_⟩
  intro hback
  obtain ⟨hencodable, htaken⟩ := (SearchResponse.comes_back_iff hbounds).mp hback
  rcases List.mem_cons.mp hitem with rfl | hlast
  · exact hsurrogate (hencodable _ List.mem_cons_self)
  · obtain rfl := List.mem_singleton.mp hlast
    exact Json.Dialect.not_takes_pow .strict (htaken _ hlong)

end TagSearch
