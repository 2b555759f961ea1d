import TagSearch.Text.Basic

/-!
# Texts inside texts
-/

namespace TagSearch

/-- Whether one list occurs in another as a contiguous run. -/
def occursIn {α : Type} [BEq α] (part : List α) : List α → Bool
  | [] => part.isEmpty
  | a :: rest => part.isPrefixOf (a :: rest) || occursIn part rest

/-- Whether a text occurs in another one, code point by code point. -/
def Text.contains (whole part : Text) : Bool := occursIn part.codePoints whole.codePoints

end TagSearch
