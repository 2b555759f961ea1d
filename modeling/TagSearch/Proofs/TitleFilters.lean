import TagSearch.Proofs.ItemPayload
import TagSearch.Proofs.CaselessText
import TagSearch.Proofs.TitleFragments

/-!
# Two title filters

A catalog and a point store filter by title in ways of their own.  The catalog lowers the wanted text and
the title and looks for the one in the other.  A point store is handed a condition on the title field,
which asks for the wanted text as it stands.  Where no title is asked for, neither filters.

The two agree on all titles exactly for caseless texts.

1.  A caseless text is found by the catalog where it occurs as it stands, and only there
    (`Caseless.titleMatches_iff`).
2.  If the filters agree, the text is its own lower form, and any other source of it would be a title
    that only the catalog lets through (`caseless_of_agree`).  What stands around the source is cut down
    to a letter or nothing first, since the text might occur there.

`title_filters_agree_iff` is the main theorem, `capital_title_filtered_out` a title on which they differ.
-/

namespace TagSearch

section

variable {t : Text} {part cs before after : List CodePoint}

/-- **A caseless text is found where it occurs.** -/
theorem Caseless.titleMatches_iff (h : Caseless t) {title : Text} :
    titleMatches (some t) title = true ↔ t.codePoints <:+: title.codePoints := by
  rw [titleMatches_some_iff, h.lowerAfter_eq]
  exact ⟨h.occurs_of_occurs_lower, h.occurs_lower⟩

/-- A letter, or nothing. -/
def letterIf (present : Bool) : List CodePoint := if present then [.char 'A'] else []

/-- It is met exactly if it is there. -/
theorem meetsCased_letterIf (present : Bool) : meetsCased (letterIf present) = present := by
  cases present
  · rfl
  · exact meetsCased_letter []

/-- One letter at most is the same from both ends. -/
theorem reverse_letterIf (present : Bool) : (letterIf present).reverse = letterIf present := by
  cases present <;> rfl

/-- The letter is a capital. -/
theorem not_isLowered_letter : ¬IsLowered (.char 'A') := by decide +kernel

/-- What has no such letter lies between them. -/
theorem infix_of_letterIf {x y : Bool} (hpart : .char 'A' ∉ part)
    (h : part <:+: letterIf x ++ cs ++ letterIf y) : part <:+: cs := by
  have hinner : part <:+: letterIf x ++ cs := by
    cases y with
    | false => simpa [letterIf] using h
    | true =>
        obtain h | h := (infix_append_cons_iff hpart).mp h
        · exact h
        · rw [List.infix_nil.mp h]
          exact List.nil_infix
  cases x with
  | false => exact hinner
  | true =>
      have hsplit : part <:+: [] ++ .char 'A' :: cs := hinner
      obtain h | h := (infix_append_cons_iff hpart).mp hsplit
      · rw [List.infix_nil.mp h]
        exact List.nil_infix
      · exact h

/-- **Where the filters agree on all titles**, the text is caseless. -/
theorem caseless_of_agree
    (h : ∀ title : List CodePoint,
      t.codePoints <:+: title ↔ lowerAfter [] t.codePoints <:+: lowerAfter [] title) :
    Caseless t := by
  -- the text occurs in its own lower form, so all of its code points are lowered
  have hlowered : ∀ p ∈ t.codePoints, IsLowered p := by
    intro p hp
    have hself : t.codePoints <:+: lowerAfter [] t.codePoints :=
      (h _).mpr (by simp [lowerAfter_lowerAfter])
    rw [← lowerBetween_nil] at hself
    exact isLowered_of_mem_lowerBetween (hself.subset hp)
  have hsame : ∀ before after, lowerBetween before t.codePoints after = t.codePoints :=
    lowerBetween_of_lowered hlowered
  have hfound : ∀ {title : List CodePoint},
      t.codePoints <:+: lowerAfter [] title → t.codePoints <:+: title := by
    intro title hoccurs
    rwa [h, ← lowerBetween_nil, hsame]
  refine ⟨?_, fun before source after => ⟨?_, ?_⟩⟩
  · intro hdot
    obtain ⟨rest, hrest⟩ := List.head?_eq_some_iff.mp hdot
    have htail : lowerAfter [.char '\u0130'] rest = rest := by
      rw [← lowerBetween_nil]
      exact lowerBetween_of_lowered (fun p hp => hlowered p (by simp [hrest, hp])) _ _
    have hwhole : lowerAfter [] (.char '\u0130' :: rest) = .char 'i' :: t.codePoints := by
      show [.char 'i', .char '\u0307'] ++ lowerAfter [.char '\u0130'] rest = _
      rw [htail, hrest]
      rfl
    have hoccurs : t.codePoints <:+: .char '\u0130' :: rest :=
      hfound (by rw [hwhole]; exact (List.suffix_cons (CodePoint.char 'i') _).isInfix)
    have hequal : t.codePoints = .char '\u0130' :: rest := hoccurs.eq_of_length (by simp [hrest])
    exact absurd (List.cons.inj (hrest.symm.trans hequal)).1 (by decide)
  · intro hsource
    let title := letterIf (meetsCased before) ++ source ++ letterIf (meetsCased after)
    have hbetween : lowerBetween (letterIf (meetsCased before)).reverse source
        (letterIf (meetsCased after)) = t.codePoints := by
      rw [← hsource, reverse_letterIf]
      exact lowerBetween_congr (meetsCased_letterIf _) (meetsCased_letterIf _) source
    have hoccurs : t.codePoints <:+: title := hfound (hbetween ▸ lowerBetween_occurs _ source _)
    have hletter : CodePoint.char 'A' ∉ t.codePoints := fun hmem => not_isLowered_letter (hlowered _ hmem)
    have hinside : t.codePoints <:+: source := infix_of_letterIf hletter hoccurs
    have hlength : source.length ≤ t.codePoints.length := by
      rw [← hsource]
      exact length_le_lowerBetween before source after
    exact (hinside.eq_of_length_le hlength).symm
  · rintro rfl
    exact hsame before after

end

section

variable {settings : Settings} {payload : Payload} {title : Text}

/-- A point store looks for the wanted text as it stands. -/
theorem accepts_title_iff (htitle : Condition.textAt payload settings.titleField = some title)
    (wanted : Option Text) :
    (queryCondition settings none wanted).all (·.accepts payload) = true ↔
      ∀ w ∈ wanted, w.codePoints <:+: title.codePoints := by
  cases wanted with
  | none => exact iff_of_true rfl nofun
  | some w =>
      simp only [Option.mem_def, Option.some.injEq, forall_eq']
      by_cases hempty : w.isEmpty = true
      · have hnone : queryCondition settings none (some w) = none := by simp [queryCondition, hempty]
        rw [hnone, Text.isEmpty_iff.mp hempty]
        exact iff_of_true rfl List.nil_infix
      · rw [← Text.contains_iff]
        simp [queryCondition, hempty, Condition.accepts, Condition.acceptsParts, Condition.acceptsAll,
          htitle]

/-- Any title can be the title of a point. -/
theorem textAt_titleField (settings : Settings) (title : Text) :
    Condition.textAt [(settings.titleField, .str title)] settings.titleField = some title := by
  simp [Condition.textAt, Json.lookup]

end

/-- **When both stores apply one title filter.**  A point store accepts a point by the wanted title exactly
if that occurs in the title of the point as it stands, code point by code point, or none is wanted.  Its
answer is that of the catalog's filter for all points exactly if the wanted title, if there is one, is
caseless. -/
theorem title_filters_agree_iff (settings : Settings) (wanted : Option Text) :
    (∀ (payload : Payload) (title : Text),
      Condition.textAt payload settings.titleField = some title →
        ((queryCondition settings none wanted).all (·.accepts payload) = true ↔
          ∀ w ∈ wanted, w.codePoints <:+: title.codePoints)) ∧
    ((∀ (payload : Payload) (title : Text),
      Condition.textAt payload settings.titleField = some title →
        (queryCondition settings none wanted).all (·.accepts payload) = titleMatches wanted title) ↔
      wanted.all isCaseless = true) := by
  refine ⟨fun payload title htitle => accepts_title_iff htitle wanted, ?_⟩
  cases wanted with
  | none => exact iff_of_true (fun _ _ _ => rfl) rfl
  | some w =>
      rw [Option.all_some, isCaseless_iff]
      constructor
      · intro hagree
        apply caseless_of_agree
        intro points
        have hfield := textAt_titleField settings (.ofCodePoints points)
        have hsame := hagree _ _ hfield
        rw [Bool.eq_iff_iff, accepts_title_iff hfield, titleMatches_some_iff] at hsame
        simpa using hsame
      · intro hcaseless payload title htitle
        rw [Bool.eq_iff_iff, accepts_title_iff htitle, hcaseless.titleMatches_iff]
        simp

/-- A text of digits and a sign is caseless: both filters let through one title and neither the other. -/
theorem title_filters_agree_on_digits :
    (queryCondition {} none (some "7-11")).all
        (·.accepts (Item.payload {} { id := .number 1, title := "Bar 7-11 ΟΔΟΣ", tags := [3] })) = true ∧
      titleMatches (some "7-11") "Bar 7-11 ΟΔΟΣ" = true ∧
      (queryCondition {} none (some "7-11")).all
        (·.accepts (Item.payload {} { id := .number 2, title := "Bar 7-12", tags := [] })) = false ∧
      titleMatches (some "7-11") "Bar 7-12" = false := by
  obtain ⟨hfilter, hagree⟩ := title_filters_agree_iff {} (some "7-11")
  have hsame := hagree.mpr (by decide +kernel)
  have hoccurs : (Text.ofString "7-11").codePoints <:+: (Text.ofString "Bar 7-11 ΟΔΟΣ").codePoints := by
    decide +kernel
  have haccepted :=
    (hfilter (Item.payload {} { id := .number 1, title := "Bar 7-11 ΟΔΟΣ", tags := [3] })
      "Bar 7-11 ΟΔΟΣ" rfl).mpr fun w hw => Option.some.inj hw ▸ hoccurs
  have hmissed : titleMatches (some "7-11") "Bar 7-12" = false := by decide +kernel
  have hrefused := hsame (Item.payload {} { id := .number 2, title := "Bar 7-12", tags := [] })
    "Bar 7-12" rfl
  exact ⟨haccepted, (hsame _ _ rfl).symm.trans haccepted, hrefused.trans hmissed, hmissed⟩

/-- **A title that only the catalog lets through**: it has the wanted letter as a capital. -/
theorem capital_title_filtered_out :
    Condition.textAt (Item.payload {} { id := .number 1, title := "A", tags := [] }) "title" = some "A" ∧
      (queryCondition {} none (some "a")).all
        (·.accepts (Item.payload {} { id := .number 1, title := "A", tags := [] })) = false ∧
      titleMatches (some "a") "A" = true := by
  decide +kernel

end TagSearch
