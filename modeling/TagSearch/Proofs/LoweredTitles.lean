import TagSearch.Proofs.TitleFragments
import TagSearch.Search.Service

/-!
# Searching for lowered titles

A search for a title lowers the wanted text and each title before it looks for the one in the other.  So
it should make no difference whether either was lowered before.  It makes none, because a text that was
lowered holds nothing that is lowered any further, wherever it stands (`Text.lower_lower`).  And a
search is a search without a title before exactly if it is one after, since nothing is lowered to no text
at all (`Text.isEmpty_lower`).

`title_search_ignores_lowering` says so of matching and of what a catalog finds.
-/

namespace TagSearch

/-- A text is lowered to the empty one only if it is empty. -/
theorem Text.isEmpty_lower (t : Text) : t.lower.isEmpty = t.isEmpty := by
  rw [Bool.eq_iff_iff, isEmpty_iff, isEmpty_iff, codePoints_lower]
  constructor
  · intro hlower
    have hlength := length_le_lowerBetween [] t.codePoints []
    rw [lowerBetween_nil, hlower] at hlength
    exact List.eq_nil_of_length_eq_zero (Nat.le_zero.mp hlength)
  · intro hempty
    rw [hempty]
    rfl

/-- The wanted text may be lowered before. -/
theorem titleMatches_lower_left (wanted : Option Text) (title : Text) :
    titleMatches (wanted.map Text.lower) title = titleMatches wanted title := by
  cases wanted with
  | none => rfl
  | some w =>
      show (w.lower.isEmpty || title.lower.contains w.lower.lower) =
        (w.isEmpty || title.lower.contains w.lower)
      rw [Text.isEmpty_lower, Text.lower_lower]

/-- So may the title. -/
theorem titleMatches_lower_right (wanted : Option Text) (title : Text) :
    titleMatches wanted title.lower = titleMatches wanted title := by
  cases wanted with
  | none => rfl
  | some w =>
      show (w.isEmpty || title.lower.lower.contains w.lower) = (w.isEmpty || title.lower.contains w.lower)
      rw [Text.lower_lower]

/-- A title is wanted as well as its lower form. -/
theorem hasTitle_lower (wanted : Option Text) : hasTitle (wanted.map Text.lower) = hasTitle wanted := by
  cases wanted with
  | none => rfl
  | some w => exact congrArg not (Text.isEmpty_lower w)

/-- A catalog finds the same page for a title and for its lower form. -/
theorem Catalog.find_lower (c : Catalog) (q : Query) :
    c.find { q with title := q.title.map Text.lower } = c.find q := by
  have hmatching :
      c.matching q.predicate (q.title.map Text.lower) = c.matching q.predicate q.title := by
    apply List.filter_congr
    intro item _
    rw [Item.satisfies, Item.satisfies, titleMatches_lower_left]
  rw [find, find, hmatching]

/-- **Searching for a title ignores lowering.**  Whatever is wanted and whatever the title is, lowering
the one or the other first changes nothing: not whether they match, not whether a title is wanted at all,
and not the page that a catalog finds. -/
theorem title_search_ignores_lowering :
    (∀ (wanted : Option Text) (title : Text),
      titleMatches (wanted.map Text.lower) title = titleMatches wanted title ∧
        titleMatches wanted title.lower = titleMatches wanted title ∧
        hasTitle (wanted.map Text.lower) = hasTitle wanted) ∧
    ∀ (c : Catalog) (q : Query), c.find { q with title := q.title.map Text.lower } = c.find q :=
  ⟨fun wanted title => ⟨titleMatches_lower_left wanted title, titleMatches_lower_right wanted title,
    hasTitle_lower wanted⟩, Catalog.find_lower⟩

/-- The dotted capital I is lowered to two characters, and the second sigma to its final form. -/
example : Text.lower "İΣΑΣ" = "i̇σας" ∧ Text.lower "i̇σας" = "i̇σας" := by decide +kernel

end TagSearch
