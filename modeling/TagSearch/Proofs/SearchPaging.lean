import TagSearch.Proofs.CriteriaReading
import TagSearch.Proofs.PageCountReach
import TagSearch.World

/-!
# Searching a catalog page by page

A request asks for an item when every criterion is right about its tags and its title matches:
`SearchRequest.Wants`.  A search in a catalog has to answer with the part of the wanted items that
the request's page stands for, and with their number and the number of their pages.

1.  `pageOf` cuts a page out of a list.  The pages put together are the list
    (`flatMap_pageOf_pages`), and a page is empty behind the last one (`pageOf_eq_nil_iff`).
2.  A service looks at a request through its query; the window that a catalog cuts for this query is
    the page (`window_eq_pageOf`), out of the wanted items (`matching_eq_wanted`).
3.  The page size is at least one and at most a thousand, as validation promises for requests
    (`SearchRequest.inBounds_of_ofJson`) and settings, so that the page count is exact.

The main theorem is `search_pages`.
-/

namespace TagSearch

section

variable {α : Type} (xs : List α) {size page : Int}

/-- The items on a page, counted from one, when a list is cut into pages of a size. -/
def pageOf (size page : Int) : List α :=
  (xs.take (page * size).toNat).drop ((page - 1) * size).toNat

/-- A page starts behind those before it. -/
theorem pageOf_succ (n k : Nat) :
    pageOf xs n (k + 1) = (xs.drop (k * n)).take n := by
  have hstart : (((k : Int) + 1 - 1) * n).toNat = k * n := by
    rw [add_sub_cancel_right, ← Nat.cast_mul, Int.toNat_natCast]
  have hend : (((k : Int) + 1) * n).toNat = k * n + n := by
    rw [← Nat.cast_succ, ← Nat.cast_mul, Int.toNat_natCast, Nat.succ_mul]
  rw [pageOf, hstart, hend, List.drop_take, Nat.add_sub_cancel_left]

/-- The window that is asked for is the page. -/
theorem window_eq_pageOf (hsize : 1 ≤ size) (hpage : 1 ≤ page) :
    window ((page - 1) * size) size xs = pageOf xs size page := by
  obtain ⟨n, rfl⟩ := Int.eq_ofNat_of_zero_le (by omega : 0 ≤ size)
  obtain ⟨k, hk⟩ := Int.eq_ofNat_of_zero_le (by omega : 0 ≤ page - 1)
  obtain rfl : page = k + 1 := by omega
  rw [pageOf_succ, add_sub_cancel_right, ← Nat.cast_mul, window_ofNat]

/-- The first pages together are a beginning of the list. -/
theorem flatMap_pageOf (n k : Nat) :
    (List.range k).flatMap (fun i : Nat => pageOf xs n (i + 1)) = xs.take (k * n) := by
  induction k with
  | zero => simp
  | succ k ih =>
      rw [List.range_succ, List.flatMap_append, ih, List.flatMap_singleton, pageOf_succ,
        Nat.succ_mul, List.take_add]

/-- A page is empty exactly when it lies behind the last one. -/
theorem pageOf_eq_nil_iff (hsize : 1 ≤ size) (hpage : 1 ≤ page) :
    pageOf xs size page = [] ↔ ⌈(xs.length : ℚ) / size⌉ < page := by
  obtain ⟨n, rfl⟩ := Int.eq_ofNat_of_zero_le (by omega : 0 ≤ size)
  obtain ⟨k, hk⟩ := Int.eq_ofNat_of_zero_le (by omega : 0 ≤ page - 1)
  obtain rfl : page = k + 1 := by omega
  have hn : 1 ≤ n := by omega
  have hpos : (0 : ℚ) < n := by exact_mod_cast hn
  have hempty : pageOf xs n (k + 1) = [] ↔ xs.length ≤ k * n := by
    rw [pageOf_succ, List.take_eq_nil_iff, List.drop_eq_nil_iff]
    omega
  rw [hempty, Int.lt_add_one_iff, Int.ceil_le, Int.cast_natCast, Int.cast_natCast,
    div_le_iff₀ hpos]
  exact_mod_cast Iff.rfl

/-- **No item is lost, repeated or moved**: all pages put together are the list. -/
theorem flatMap_pageOf_pages (hsize : 1 ≤ size) :
    (List.range ⌈(xs.length : ℚ) / size⌉.toNat).flatMap
      (fun i : Nat => pageOf xs size (i + 1)) = xs := by
  obtain ⟨n, rfl⟩ := Int.eq_ofNat_of_zero_le (by omega : 0 ≤ size)
  have hpos : (0 : ℚ) < n := by exact_mod_cast (by omega : 0 < n)
  have hall : xs.length ≤ ⌈(xs.length : ℚ) / n⌉.toNat * n := by
    have hle : (xs.length : ℚ) / n ≤ ⌈(xs.length : ℚ) / n⌉.toNat := by
      refine (Int.le_ceil _).trans ?_
      exact_mod_cast Int.self_le_toNat _
    rw [div_le_iff₀ hpos] at hle
    exact_mod_cast hle
  rw [Int.cast_natCast, flatMap_pageOf, List.take_of_length_le hall]

end

/-- A page request within its bounds. -/
structure PageRequest.InBounds (p : PageRequest) : Prop where
  page_pos : 1 ≤ p.page
  size_bounds : ∀ size ∈ p.size, 1 ≤ size ∧ size ≤ 1000

/-- Page sizes of a service within their bounds. -/
structure PageLimits.InBounds (limits : PageLimits) : Prop where
  default_pos : 1 ≤ limits.default
  max_pos : 1 ≤ limits.max
  max_le : limits.max ≤ 1000

/-- A page request that is accepted is within bounds. -/
theorem PageRequest.inBounds_of_decode {v : Json} {p : PageRequest} (h : decode v = .accepted p) :
    p.InBounds := by
  obtain ⟨members, -, hfields⟩ := Checked.of_record_eq_accepted h
  obtain ⟨_, size, hmk, hsize, rfl⟩ := Checked.seq_eq_accepted_iff.mp hfields
  obtain ⟨page, hpage, rfl⟩ := Checked.fmap_eq_accepted_iff.mp hmk
  constructor
  · rcases Checked.of_defaulted_eq_accepted hpage with rfl | ⟨w, hw⟩
    · exact le_refl (1 : Int)
    · exact Checked.le_of_integerFrom hw
  · rcases Checked.of_optional_eq_accepted hsize with rfl | ⟨w, n, hw, rfl⟩
    · exact nofun
    · rintro size ⟨⟩
      exact Checked.between_of_integerBetween hw

/-- The page of a request that was read from a record is within its bounds, given or not. -/
theorem SearchRequest.inBounds_of_ofJson {v : Json} {r : SearchRequest} (h : ofJson v = .ok r) :
    r.metadata.InBounds := by
  obtain ⟨members, -, hfields⟩ := Checked.of_record_eq_accepted (Checked.conclude_eq_ok_iff.mp h)
  obtain ⟨_, metadata, hmk, hmetadata, rfl⟩ := Checked.seq_eq_accepted_iff.mp hfields
  obtain ⟨data, _, rfl⟩ := Checked.fmap_eq_accepted_iff.mp hmk
  rcases Checked.of_defaulted_eq_accepted hmetadata with rfl | ⟨w, hw⟩
  · exact ⟨le_refl (1 : Int), nofun⟩
  · exact PageRequest.inBounds_of_decode hw

/-- So are the page sizes of settings that were read from named values. -/
theorem Settings.inBounds_of_ofMembers {members : Json.Members} {s : Settings}
    (h : ofMembers members = .ok s) : s.limits.InBounds := by
  obtain ⟨_, _, hknown, _, rfl⟩ :=
    Checked.seq_eq_accepted_iff.mp (Checked.conclude_eq_ok_iff.mp h)
  obtain ⟨s, hs, rfl⟩ := Checked.fmap_eq_accepted_iff.mp hknown
  -- the sizes are the ninth and tenth of twelve members
  obtain ⟨_, level, hlevel, _, rfl⟩ := Checked.seq_eq_accepted_iff.mp hs
  obtain ⟨_, timeout, htimeout, _, rfl⟩ := Checked.seq_eq_accepted_iff.mp hlevel
  obtain ⟨_, max, hmax, hmaxRead, rfl⟩ := Checked.seq_eq_accepted_iff.mp htimeout
  obtain ⟨_, default, hdefault, hdefaultRead, rfl⟩ := Checked.seq_eq_accepted_iff.mp hmax
  obtain ⟨_, ns, hns, _, rfl⟩ := Checked.seq_eq_accepted_iff.mp hdefault
  obtain ⟨_, title, htitle, _, rfl⟩ := Checked.seq_eq_accepted_iff.mp hns
  obtain ⟨_, tag, htag, _, rfl⟩ := Checked.seq_eq_accepted_iff.mp htitle
  obtain ⟨_, file, hfile, _, rfl⟩ := Checked.seq_eq_accepted_iff.mp htag
  obtain ⟨_, collection, hcollection, _, rfl⟩ := Checked.seq_eq_accepted_iff.mp hfile
  obtain ⟨_, port, hport, _, rfl⟩ := Checked.seq_eq_accepted_iff.mp hcollection
  obtain ⟨_, host, hhost, _, rfl⟩ := Checked.seq_eq_accepted_iff.mp hport
  obtain ⟨backend, _, rfl⟩ := Checked.fmap_eq_accepted_iff.mp hhost
  have hdefaultPos : 1 ≤ default := by
    rcases Checked.of_defaulted_eq_accepted hdefaultRead with rfl | ⟨w, hw⟩
    · decide
    · exact Checked.le_of_integerFrom hw
  have hmaxBounds : 1 ≤ max ∧ max ≤ 1000 := by
    rcases Checked.of_defaulted_eq_accepted hmaxRead with rfl | ⟨w, hw⟩
    · decide
    · exact Checked.between_of_integerBetween hw
  exact ⟨hdefaultPos, hmaxBounds.1, hmaxBounds.2⟩

namespace SearchRequest

/-- Whether a request asks for an item: where there are criteria, each is right about the item's
tags, and the item's title matches. -/
def Wants (r : SearchRequest) (item : Item) : Prop :=
  (∀ criteria ∈ r.data.bind (·.tags), ∀ c ∈ criteria, c.Says item.tags) ∧
    titleMatches r.title item.title = true

instance (r : SearchRequest) (item : Item) : Decidable (r.Wants item) := by
  unfold Wants
  infer_instance

/-- The items that a request asks for, in the order of the catalog. -/
def wanted (r : SearchRequest) (c : Catalog) : List Item := c.items.filter (r.Wants ·)

/-- The same request for another page. -/
def atPage (r : SearchRequest) (page : Int) : SearchRequest :=
  { r with metadata := { r.metadata with page } }

/-- An item satisfies the query of a request exactly if the request asks for it. -/
theorem satisfies_iff_wants (r : SearchRequest) (item : Item) :
    item.satisfies r.filter r.title = true ↔ r.Wants item := by
  unfold Item.satisfies Wants filter
  rw [Bool.and_eq_true]
  refine and_congr_left fun _ => ?_
  cases r.data.bind (·.tags) with
  | none => simp
  | some criteria => simp [holds_compile_iff]

/-- So the matching items are those that are asked for. -/
theorem matching_eq_wanted (r : SearchRequest) (c : Catalog) :
    c.matching r.filter r.title = r.wanted c := by
  unfold Catalog.matching wanted
  apply List.filter_congr
  intro item _
  rw [Bool.eq_iff_iff, decide_eq_true_eq]
  exact satisfies_iff_wants r item

/-- The answer that a request has to be given: of the wanted items those on its page, their number
and the number of their pages. -/
def answer (r : SearchRequest) (limits : PageLimits) (c : Catalog) : SearchResponse :=
  let size := min (r.metadata.size.getD limits.default) limits.max
  let found := r.wanted c
  { metadata := ⟨r.metadata.page, size, found.length, ⌈(found.length : ℚ) / size⌉⟩
    data := pageOf found size r.metadata.page }

end SearchRequest

variable {limits : PageLimits} {c : Catalog} {r : SearchRequest}

/-- Within bounds the page size of a search is from one to a thousand. -/
theorem PageLimits.size_bounds (hlimits : limits.InBounds) (hr : r.metadata.InBounds) :
    1 ≤ limits.size r ∧ limits.size r ≤ 1000 := by
  have hasked : 1 ≤ r.metadata.size.getD limits.default := by
    cases hsize : r.metadata.size with
    | none => exact hlimits.default_pos
    | some size => exact (hr.size_bounds size hsize).1
  have hpos := hlimits.max_pos
  have hle := hlimits.max_le
  unfold PageLimits.size
  omega

/-- The total counts them all. -/
theorem SearchRequest.total_find :
    (c.find (r.query limits)).total = (r.wanted c).length := by
  rw [← r.matching_eq_wanted]
  rfl

/-- The items on the page are those of the answer. -/
theorem SearchRequest.items_find (hlimits : limits.InBounds) (hr : r.metadata.InBounds) :
    (c.find (r.query limits)).items = (r.answer limits c).data := by
  have hdata : window ((r.metadata.page - 1) * limits.size r) (limits.size r) (r.wanted c) =
      (r.answer limits c).data := window_eq_pageOf _ (PageLimits.size_bounds hlimits hr).1 hr.page_pos
  rw [← hdata, ← r.matching_eq_wanted]
  rfl

/-- What a catalog finds for the query of a request becomes the answer to it. -/
theorem SearchRequest.respond_find (hlimits : limits.InBounds) (hr : r.metadata.InBounds)
    (hc : c.items.length ≤ 2 ^ 53) :
    r.respond limits (c.find (r.query limits)) = .ok (r.answer limits c) := by
  obtain ⟨hpos, hle⟩ := PageLimits.size_bounds hlimits hr
  have hfound : (r.wanted c).length ≤ 2 ^ 53 := (List.length_filter_le _ _).trans hc
  have hinfo : PageInfo.build r.metadata.page (limits.size r) (r.wanted c).length =
      .ok (r.answer limits c).metadata := by
    rw [PageInfo.build_eq hr.page_pos hpos (by omega) (by exact_mod_cast hfound)
      (not_vanishes_of_lt (by omega)), Int.cast_natCast]
    rfl
  rw [respond, total_find, hinfo, items_find hlimits hr]
  rfl

/-- However many items there are, the answer has those on the page, unless there are too many to count
pages. -/
theorem SearchRequest.respond_find_or_overflow (hlimits : limits.InBounds)
    (hr : r.metadata.InBounds) :
    (∃ response, r.respond limits (c.find (r.query limits)) = .ok response ∧
      response.data = (r.answer limits c).data) ∨
    (2 ^ 1022 < (r.answer limits c).metadata.totalItems ∧
      r.respond limits (c.find (r.query limits)) = .error .pageCountOverflow) := by
  have hsize := (PageLimits.size_bounds hlimits hr).1
  have htotal : (0 : Int) ≤ (r.wanted c).length := Int.natCast_nonneg _
  rw [respond, total_find, items_find hlimits hr]
  rcases pageCount_or_overflow htotal hsize with ⟨pages, hpages, hcount⟩ | ⟨hlarge, hcount⟩
  · rw [PageInfo.build_of_pageCount hr.page_pos htotal hsize hpages hcount]
    exact Or.inl ⟨_, rfl, rfl⟩
  · rw [PageInfo.build, hcount]
    exact Or.inr ⟨hlarge, rfl⟩

section

variable {m : Type → Type} [Monad m] [LawfulMonad m] (w : World m) {s : Settings}

/-- A search in a catalog is answered as it has to be. -/
theorem World.search_catalog (hs : s.limits.InBounds) (hr : r.metadata.InBounds)
    (hc : c.items.length ≤ 2 ^ 53) :
    ∃ events, w.search s (.catalog c) r = pure ⟨events, .ok (r.answer s.limits c)⟩ := by
  have hrun : w.search s (.catalog c) r =
      pure (r.finish s.limits (.ok (c.find (r.query s.limits)))) := by
    simp [World.search, TagSearch.search, World.find]
  have hanswer := SearchRequest.respond_find hs hr hc
  refine ⟨[filterEvent r, searchEvent s.limits r (c.find (r.query s.limits))], ?_⟩
  rw [hrun, SearchRequest.finish, hanswer]

/-- **Searching page by page.**  In bounds, a search in a catalog succeeds, and its answer has the
wanted items on the request's page, their number, and the number of their pages.  The same request
for one page after the other brings every wanted item once and in order, and it brings nothing
behind the last page only. -/
theorem search_pages (hs : s.limits.InBounds) (hr : r.metadata.InBounds)
    (hc : c.items.length ≤ 2 ^ 53) :
    (∃ events, w.search s (.catalog c) r = pure ⟨events, .ok (r.answer s.limits c)⟩) ∧
      (∀ page, 1 ≤ page → ∃ events, w.search s (.catalog c) (r.atPage page) =
        pure ⟨events, .ok ((r.atPage page).answer s.limits c)⟩) ∧
      (List.range (r.answer s.limits c).metadata.totalPages.toNat).flatMap
        (fun k : Nat => ((r.atPage (k + 1)).answer s.limits c).data) = r.wanted c ∧
      ∀ page, 1 ≤ page → (((r.atPage page).answer s.limits c).data = [] ↔
        (r.answer s.limits c).metadata.totalPages < page) := by
  obtain ⟨hpos, _⟩ := PageLimits.size_bounds hs hr
  refine ⟨w.search_catalog hs hr hc, ?_, ?_, ?_⟩
  · intro page hpage
    have hat : (r.atPage page).metadata.InBounds := ⟨hpage, hr.size_bounds⟩
    exact w.search_catalog hs hat hc
  · exact flatMap_pageOf_pages (r.wanted c) hpos
  · intro page hpage
    exact pageOf_eq_nil_iff (r.wanted c) hpos hpage

end

/-- A world without files, whose remote side has nothing and does nothing. -/
def World.bare : World Id where
  entry _ := .absent
  points :=
    { connect := fun _ => (), count := fun _ _ => (0 : Int), query := fun _ _ _ _ => ([] : List Payload)
      collections := ([] : List String), create := fun _ _ => (), delete := fun _ => ()
      upsert := fun _ _ => () }

/-- Two of three items are wanted, and the limit lets one onto a page although seven are asked for.
Settings and request are read from records, so that they are in bounds. -/
theorem search_second_page_of_two :
    let c := Catalog.ofList
      [⟨.number 1, "a", [5, 7]⟩, ⟨.number 2, "b", [7]⟩, ⟨.text "2", "c", [0, 7]⟩]
    let s : Settings := { maxPageSize := 1 }
    let r : SearchRequest :=
      { data := some { tags := some [.group [5, -7, 0]] }, metadata := { page := 2, size := some 7 } }
    Settings.ofMembers [("max_page_size", .int 1)] = .ok s ∧
      SearchRequest.ofJson (.obj [("data", .obj [("tags", .arr [.ints [5, -7, 0]])]),
        ("metadata", .obj [("page", .int 2), ("size", .int 7)])]) = .ok r ∧
      s.limits.InBounds ∧ r.metadata.InBounds ∧ c.items.length ≤ 2 ^ 53 ∧
      (r.answer s.limits c).metadata.pageSize = 1 ∧
      (r.answer s.limits c).data = [⟨.text "2", "c", [0, 7]⟩] ∧
      ∃ events, World.bare.search s (.catalog c) r = pure ⟨events, .ok (r.answer s.limits c)⟩ := by
  intro c s r
  have hsettings : Settings.ofMembers [("max_page_size", .int 1)] = .ok s := rfl
  have hrequest : SearchRequest.ofJson (.obj [("data", .obj [("tags", .arr [.ints [5, -7, 0]])]),
      ("metadata", .obj [("page", .int 2), ("size", .int 7)])]) = .ok r := rfl
  have hs := Settings.inBounds_of_ofMembers hsettings
  have hr := SearchRequest.inBounds_of_ofJson hrequest
  have hc : c.items.length ≤ 2 ^ 53 := by decide
  exact ⟨hsettings, hrequest, hs, hr, hc, by decide, by decide,
    (search_pages World.bare hs hr hc).1⟩

end TagSearch
