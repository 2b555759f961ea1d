import TagSearch.Proofs.LoweredText
import TagSearch.Store.Catalog

/-!
# Titles and their fragments

A title is searched without minding letter case: the wanted text and the title are lowered, each by
itself, and the one has to occur in the other.  A text that occurs in a title as it stands should be found
in it.  It is, unless lowering it by itself differs from lowering it where it stands, and that can only
happen to a capital sigma: whether it ends a word may depend on what stands around the fragment.  Such a
sigma is open in the fragment (`hasOpenSigma`).

1.  Where a fragment keeps the form of its sigmas, it is found (`titleMatches_of_place`), and a sigma that
    is not open keeps its form everywhere (`endsWord_append_of_not_open`).
2.  A fragment with an open sigma is missed in the title that has one more letter, before or behind it
    (`exists_missed_of_open`).

`fragment_found_iff` says for which fragments searching never misses one, and `fragment_missed` is a title
that starts with the fragment and is missed.
-/

namespace TagSearch

section

variable {α : Type} {x : α} {part xs ys : List α}

/-- What does not have the separator starts on the side before it. -/
theorem prefix_append_cons_iff (hx : x ∉ part) : part <+: xs ++ x :: ys ↔ part <+: xs := by
  constructor
  · intro h
    induction xs generalizing part with
    | nil =>
        cases part with
        | nil => exact List.nil_prefix
        | cons y rest =>
            obtain ⟨rfl, -⟩ := List.cons_prefix_cons.mp h
            exact absurd List.mem_cons_self hx
    | cons z zs ih =>
        cases part with
        | nil => exact List.nil_prefix
        | cons y rest =>
            obtain ⟨rfl, hrest⟩ := List.cons_prefix_cons.mp h
            exact List.cons_prefix_cons.mpr ⟨rfl, ih (mt (List.mem_cons_of_mem y) hx) hrest⟩
  · exact List.prefix_append_of_prefix

/-- What does not have the separator lies on one side of it. -/
theorem infix_append_cons_iff (hx : x ∉ part) :
    part <:+: xs ++ x :: ys ↔ part <:+: xs ∨ part <:+: ys := by
  induction xs with
  | nil =>
      have hnil : part <+: x :: ys ↔ part = [] := by
        rw [← List.nil_append (x :: ys), prefix_append_cons_iff hx, List.prefix_nil]
      rw [List.nil_append, List.infix_cons_iff, hnil, List.infix_nil]
  | cons z zs ih =>
      rw [List.cons_append, List.infix_cons_iff, ih, List.infix_cons_iff, ← List.cons_append,
        prefix_append_cons_iff hx, or_assoc]

/-- Occurring is being an infix. -/
theorem occursIn_iff [BEq α] [LawfulBEq α] : occursIn part xs = true ↔ part <:+: xs := by
  induction xs with
  | nil => rw [occursIn, List.isEmpty_iff, List.infix_nil]
  | cons y rest ih =>
      rw [occursIn, Bool.or_eq_true, List.isPrefixOf_iff_prefix, ih, List.infix_cons_iff]

end

/-- A text occurs in another one where its code points do. -/
theorem Text.contains_iff {whole part : Text} :
    whole.contains part = true ↔ part.codePoints <:+: whole.codePoints := occursIn_iff

/-- The empty text is the one without code points. -/
theorem Text.isEmpty_iff {t : Text} : t.isEmpty = true ↔ t.codePoints = [] := by
  obtain ⟨opening, broken⟩ := t
  cases broken <;> simp [isEmpty, codePoints, charPoints]

/-- A title matches where the lower form of the wanted text occurs in its own. -/
theorem titleMatches_some_iff {wanted title : Text} :
    titleMatches (some wanted) title = true ↔
      lowerAfter [] wanted.codePoints <:+: lowerAfter [] title.codePoints := by
  rw [titleMatches, Bool.or_eq_true, Text.contains_iff, Text.codePoints_lower, Text.codePoints_lower,
    or_iff_right_of_imp]
  intro hempty
  rw [Text.isEmpty_iff.mp hempty]
  exact List.nil_infix

/-- Every capital sigma of a text between two others, the first one reversed, ends a word there exactly if
it does in the text alone. -/
def SigmasKept (before cs after : List CodePoint) : Prop :=
  ∀ l r, cs = l ++ .char 'Σ' :: r → endsWord (l.reverse ++ before) (r ++ after) = endsWord l.reverse r

/-- A part keeps the form that it has alone exactly if its capital sigmas do. -/
theorem lowerBetween_eq_iff_sigmasKept {before cs after : List CodePoint} :
    lowerBetween before cs after = lowerAfter [] cs ↔ SigmasKept before cs after := by
  rw [← lowerBetween_nil, lowerBetween_eq_iff]
  simp only [List.append_nil, SigmasKept]

/-- **A fragment that keeps its form is found.** -/
theorem titleMatches_of_place {wanted title : Text} {before after : List CodePoint}
    (hplace : title.codePoints = before ++ wanted.codePoints ++ after)
    (hkept : SigmasKept before.reverse wanted.codePoints after) :
    titleMatches (some wanted) title = true := by
  rw [titleMatches_some_iff, hplace, ← lowerBetween_eq_iff_sigmasKept.mpr hkept]
  exact lowerBetween_occurs before wanted.codePoints after

/-- Whether the form of a capital sigma between two texts, the first one reversed, depends on what stands
around both: nothing before it matters and no letter comes behind, or a letter stands before it and
nothing behind matters. -/
def sigmaIsOpen (before after : List CodePoint) : Bool :=
  before.all CodePoint.isIgnorable && !meetsCased after ||
    meetsCased before && after.all CodePoint.isIgnorable

/-- Whether an open sigma comes in a text that follows another one, given reversed. -/
def hasOpenSigmaAfter (before : List CodePoint) : List CodePoint → Bool
  | [] => false
  | c :: rest => c == .char 'Σ' && sigmaIsOpen before rest || hasOpenSigmaAfter (c :: before) rest

/-- Whether a text has a capital sigma whose form depends on what stands around the text. -/
def hasOpenSigma (t : Text) : Bool := hasOpenSigmaAfter [] t.codePoints

/-- A text has an open sigma exactly if one of its capital sigmas is open where it stands. -/
theorem hasOpenSigmaAfter_iff {before cs : List CodePoint} :
    hasOpenSigmaAfter before cs = true ↔
      ∃ l r, cs = l ++ .char 'Σ' :: r ∧ sigmaIsOpen (l.reverse ++ before) r = true := by
  induction cs generalizing before with
  | nil => simp [hasOpenSigmaAfter]
  | cons c rest ih =>
      rw [hasOpenSigmaAfter, Bool.or_eq_true, Bool.and_eq_true, beq_iff_eq, ih]
      constructor
      · rintro (⟨rfl, hopen⟩ | ⟨l, r, rfl, hopen⟩)
        · exact ⟨[], rest, rfl, hopen⟩
        · exact ⟨c :: l, r, rfl, by simpa using hopen⟩
      · rintro ⟨l, r, hsplit, hopen⟩
        cases l with
        | nil =>
            obtain ⟨rfl, rfl⟩ := List.cons.inj hsplit
            exact Or.inl ⟨rfl, hopen⟩
        | cons d l =>
            obtain ⟨rfl, rfl⟩ := List.cons.inj hsplit
            exact Or.inr ⟨l, r, rfl, by simpa using hopen⟩

/-- The same of a whole text. -/
theorem hasOpenSigma_iff {t : Text} :
    hasOpenSigma t = true ↔ ∃ l r, t.codePoints = l ++ .char 'Σ' :: r ∧ sigmaIsOpen l.reverse r = true := by
  rw [hasOpenSigma, hasOpenSigmaAfter_iff]
  simp only [List.append_nil]

/-- A sigma that is not open has one form whatever stands around. -/
theorem endsWord_append_of_not_open {l r : List CodePoint} (h : sigmaIsOpen l r = false)
    (before after : List CodePoint) : endsWord (l ++ before) (r ++ after) = endsWord l r := by
  have hl : l.all CodePoint.isIgnorable = true → meetsCased l = false := meetsCased_of_all
  have hr : r.all CodePoint.isIgnorable = true → meetsCased r = false := meetsCased_of_all
  rw [endsWord, endsWord, meetsCased_append, meetsCased_append]
  unfold sigmaIsOpen at h
  cases hleft : l.all CodePoint.isIgnorable <;> cases hright : r.all CodePoint.isIgnorable <;>
    simp_all

/-- Without an open sigma, a text keeps its form wherever it stands. -/
theorem sigmasKept_of_not_hasOpenSigma {t : Text} (h : hasOpenSigma t = false)
    (before after : List CodePoint) : SigmasKept before t.codePoints after := by
  intro l r hsplit
  apply endsWord_append_of_not_open
  rw [Bool.eq_false_iff]
  intro hopen
  exact Bool.eq_false_iff.mp h (hasOpenSigma_iff.mpr ⟨l, r, hsplit, hopen⟩)

/-- What has a character more often does not occur. -/
theorem not_infix_of_count_lt {x : CodePoint} {part whole : List CodePoint}
    (h : whole.count x < part.count x) : ¬part <:+: whole := by
  intro hpart
  exact Nat.not_le_of_lt h (List.Sublist.count_le x hpart.sublist)

/-- Where only one capital sigma of a text takes the form that it does not take in the text alone, there is
one of those too few. -/
theorem not_infix_of_other_form {l r before after whole : List CodePoint}
    (hends : endsWord (l.reverse ++ before) (r ++ after) = !endsWord l.reverse r)
    (hleft : lowerBetween before l (.char 'Σ' :: (r ++ after)) = lowerBetween [] l (.char 'Σ' :: r))
    (hright : lowerBetween (.char 'Σ' :: (l.reverse ++ before)) r after =
      lowerBetween (.char 'Σ' :: l.reverse) r [])
    (hwhole : ∀ x, x ≠ .char 'a' →
      whole.count x = (lowerBetween before (l ++ .char 'Σ' :: r) after).count x) :
    ¬lowerAfter [] (l ++ .char 'Σ' :: r) <:+: whole := by
  have hform : CodePoint.char (if endsWord l.reverse r then 'ς' else 'σ') ≠ .char 'a' := by
    split <;> decide
  apply not_infix_of_count_lt (x := .char (if endsWord l.reverse r then 'ς' else 'σ'))
  rw [hwhole _ hform, ← lowerBetween_nil, lowerBetween_sigma, lowerBetween_sigma, hends, hleft, hright]
  simp only [List.append_nil, List.count_append, List.count_cons]
  cases endsWord l.reverse r <;> simp

/-- Where nothing before the sigma matters, a letter at the start of the title makes it a final one. -/
theorem missed_behind_letter {l r : List CodePoint} (hl : l.reverse.all CodePoint.isIgnorable = true)
    (hr : meetsCased r = false) :
    ¬lowerAfter [] (l ++ .char 'Σ' :: r) <:+: lowerAfter [] ([.char 'A'] ++ (l ++ .char 'Σ' :: r)) := by
  have hends : endsWord (l.reverse ++ [.char 'A']) (r ++ []) = !endsWord l.reverse r := by
    rw [endsWord, endsWord, meetsCased_append, if_pos hl, meetsCased_of_all hl, meetsCased_letter,
      List.append_nil, hr]
    rfl
  have hleft : lowerBetween [.char 'A'] l (.char 'Σ' :: (r ++ [])) = lowerBetween [] l (.char 'Σ' :: r) :=
    lowerBetween_of_all (by rwa [List.all_reverse] at hl) _ _ _ _
  have hright : lowerBetween (.char 'Σ' :: (l.reverse ++ [.char 'A'])) r [] =
      lowerBetween (.char 'Σ' :: l.reverse) r [] :=
    lowerBetween_congr (by rw [meetsCased_sigma, meetsCased_sigma]) rfl r
  refine not_infix_of_other_form hends hleft hright fun x hx => ?_
  rw [lowerAfter_append, lowerBetween_letter, lowerBetween_nil, List.count_append,
    List.count_singleton, beq_eq_false_iff_ne.mpr hx.symm]
  exact Nat.zero_add _

/-- Where nothing behind the sigma matters, a letter at the end of the title keeps it from being final. -/
theorem missed_before_letter {l r : List CodePoint} (hl : meetsCased l.reverse = true)
    (hr : r.all CodePoint.isIgnorable = true) :
    ¬lowerAfter [] (l ++ .char 'Σ' :: r) <:+: lowerAfter [] ((l ++ .char 'Σ' :: r) ++ [.char 'A']) := by
  have hends : endsWord (l.reverse ++ []) (r ++ [.char 'A']) = !endsWord l.reverse r := by
    rw [endsWord, endsWord, meetsCased_append r, if_pos hr, meetsCased_of_all hr, meetsCased_letter,
      List.append_nil, hl]
    rfl
  have hleft : lowerBetween [] l (.char 'Σ' :: (r ++ [.char 'A'])) = lowerBetween [] l (.char 'Σ' :: r) :=
    lowerBetween_congr rfl (by rw [meetsCased_sigma, meetsCased_sigma]) l
  have hright : lowerBetween (.char 'Σ' :: (l.reverse ++ [])) r [.char 'A'] =
      lowerBetween (.char 'Σ' :: l.reverse) r [] :=
    lowerBetween_of_all hr _ _ _ _
  refine not_infix_of_other_form hends hleft hright fun x hx => ?_
  rw [lowerAfter_append, ← lowerBetween_nil _ [.char 'A'], lowerBetween_letter, List.count_append,
    List.count_singleton, beq_eq_false_iff_ne.mpr hx.symm]
  rfl

/-- **A fragment with an open sigma is missed** in a title that has one more letter. -/
theorem exists_missed_of_open {wanted : Text} (h : hasOpenSigma wanted = true) :
    ∃ title : Text, wanted.codePoints <:+: title.codePoints ∧
      titleMatches (some wanted) title = false := by
  obtain ⟨l, r, hsplit, hopen⟩ := hasOpenSigma_iff.mp h
  have hmissed : ∀ points : List CodePoint,
      ¬lowerAfter [] wanted.codePoints <:+: lowerAfter [] points →
        titleMatches (some wanted) (.ofCodePoints points) = false := by
    intro points habsent
    rw [Bool.eq_false_iff, ne_eq, titleMatches_some_iff, Text.codePoints_ofCodePoints]
    exact habsent
  rw [hsplit] at hmissed ⊢
  rw [sigmaIsOpen, Bool.or_eq_true, Bool.and_eq_true, Bool.and_eq_true, Bool.not_eq_true'] at hopen
  -- the one more letter is put on the side where it changes the form of the sigma
  obtain ⟨hl, hr⟩ | ⟨hl, hr⟩ := hopen
  · refine ⟨_, ?_, hmissed _ (missed_behind_letter hl hr)⟩
    rw [Text.codePoints_ofCodePoints]
    exact (List.suffix_append _ _).isInfix
  · refine ⟨_, ?_, hmissed _ (missed_before_letter hl hr)⟩
    rw [Text.codePoints_ofCodePoints]
    exact (List.prefix_append _ _).isInfix

/-- A page that has room for all items has exactly those that the query asks for. -/
theorem Catalog.mem_items_find {c : Catalog} {predicate : Option Predicate} {wanted : Text}
    {limit : Int} {item : Item} (hlimit : c.items.length ≤ limit) (hitem : item ∈ c.items) :
    item ∈ (c.find ⟨predicate, some wanted, 0, limit⟩).items ↔
      predicate.all (·.holds item.tags) = true ∧ titleMatches (some wanted) item.title = true := by
  have htotal : ((c.find ⟨predicate, some wanted, 0, limit⟩).total : Int) ≤ limit := by
    have hle : (c.matching predicate (some wanted)).length ≤ c.items.length :=
      List.length_filter_le _ _
    show ((c.matching predicate (some wanted)).length : Int) ≤ limit
    omega
  rw [items_find_eq_matching rfl htotal, matching, List.mem_filter, and_iff_right hitem,
    Item.satisfies, Bool.and_eq_true]

section

variable {wanted : Text}

/-- A text is found wherever it occurs exactly if it has no open sigma. -/
theorem found_everywhere_iff :
    (∀ title : Text, wanted.codePoints <:+: title.codePoints →
      titleMatches (some wanted) title = true) ↔ hasOpenSigma wanted = false := by
  constructor
  · intro hfound
    rw [Bool.eq_false_iff]
    intro hopen
    obtain ⟨title, hoccurs, hmissed⟩ := exists_missed_of_open hopen
    exact Bool.false_ne_true (hmissed.symm.trans (hfound title hoccurs))
  · intro hclosed title hoccurs
    obtain ⟨before, after, hplace⟩ := hoccurs
    exact titleMatches_of_place hplace.symm (sigmasKept_of_not_hasOpenSigma hclosed _ _)

/-- What catalogs find is decided title by title. -/
theorem catalogs_find_iff {occurs : Text → Prop} :
    (∀ (c : Catalog) (predicate : Option Predicate) (limit : Int), c.items.length ≤ limit →
      ∀ item ∈ c.items, predicate.all (·.holds item.tags) = true → occurs item.title →
        item ∈ (c.find ⟨predicate, some wanted, 0, limit⟩).items) ↔
    ∀ title : Text, occurs title → titleMatches (some wanted) title = true := by
  constructor
  · intro hfinds title hoccurs
    let item : Item := { id := .number 0, title := title, tags := [] }
    have hitem : item ∈ (Catalog.ofList [item]).items := List.mem_singleton_self item
    have hfound := hfinds (Catalog.ofList [item]) none 1 (Int.le_refl 1) item hitem rfl hoccurs
    exact ((Catalog.mem_items_find (Int.le_refl 1) hitem).mp hfound).2
  · intro hmatch c predicate limit hlimit item hitem hholds hoccurs
    exact (Catalog.mem_items_find hlimit hitem).mpr ⟨hholds, hmatch item.title hoccurs⟩

end

/-- **Which fragments searching never misses.**  A text is found in every title in which it occurs as it
stands, code point by code point, exactly if it has no open sigma.  So for exactly these texts a catalog
that is asked for everything finds all items that satisfy the predicate and have the text in their titles.
A text with an open sigma is still found wherever it occurs with each capital sigma ending a word exactly
if it does in the text alone. -/
theorem fragment_found_iff (wanted : Text) :
    ((∀ title : Text, wanted.codePoints <:+: title.codePoints →
        titleMatches (some wanted) title = true) ↔ hasOpenSigma wanted = false) ∧
    ((∀ (c : Catalog) (predicate : Option Predicate) (limit : Int), c.items.length ≤ limit →
        ∀ item ∈ c.items, predicate.all (·.holds item.tags) = true →
          wanted.codePoints <:+: item.title.codePoints →
            item ∈ (c.find ⟨predicate, some wanted, 0, limit⟩).items) ↔ hasOpenSigma wanted = false) ∧
    ∀ (title : Text) (before after : List CodePoint),
      title.codePoints = before ++ wanted.codePoints ++ after →
        SigmasKept before.reverse wanted.codePoints after → titleMatches (some wanted) title = true :=
  ⟨found_everywhere_iff, catalogs_find_iff.trans found_everywhere_iff,
    fun _ _ _ => titleMatches_of_place⟩

/-- Both sigmas of this text have their form from the text itself: a letter follows the first one, and the
second ends a word. -/
theorem fragment_found_across_words :
    hasOpenSigma "ΣΟΦΟΣ Α" = false ∧
      titleMatches (some "ΣΟΦΟΣ Α") "ΦΙΛΟΣΟΦΟΣ ΑΛΗΘΩΣ" = true ∧
      hasOpenSigma "ΟΔΟΣ" = true ∧ titleMatches (some "ΟΔΟΣ") "ΟΔΟΣ ΑΘΗΝΑΣ" = true := by
  have hclosed : hasOpenSigma "ΣΟΦΟΣ Α" = false := by decide +kernel
  have hwords : (Text.ofString "ΣΟΦΟΣ Α").codePoints <:+:
      (Text.ofString "ΦΙΛΟΣΟΦΟΣ ΑΛΗΘΩΣ").codePoints := by
    decide +kernel
  refine ⟨hclosed, (fragment_found_iff _).1.mpr hclosed _ hwords, by decide +kernel, ?_⟩
  have hkept : SigmasKept [] (Text.ofString "ΟΔΟΣ").codePoints (Text.ofString " ΑΘΗΝΑΣ").codePoints :=
    lowerBetween_eq_iff_sigmasKept.mp (by decide +kernel)
  exact (fragment_found_iff _).2.2 _ [] _ (by decide +kernel) hkept

/-- **A title that starts with the wanted text and is missed.**  Alone the text ends in a sigma that is
final; in the title the word goes on. -/
theorem fragment_missed :
    (Text.ofString "ΟΔΥΣ").codePoints <:+: (Text.ofString "ΟΔΥΣΣΕΑΣ").codePoints ∧
      titleMatches (some "ΟΔΥΣ") "ΟΔΥΣΣΕΑΣ" = false ∧
      (Catalog.find (.ofList [{ id := .number 1, title := "ΟΔΥΣΣΕΑΣ", tags := [] }])
        ⟨none, some "ΟΔΥΣ", 0, 10⟩).items = [] := by
  decide +kernel

end TagSearch
