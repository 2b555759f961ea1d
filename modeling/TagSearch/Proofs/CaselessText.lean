import TagSearch.Proofs.LoweredText

/-!
# Texts without case

A text is caseless if no letter case can disguise it: nothing but the text itself is lowered to it,
whatever stands around (`Caseless`).  Digits, most signs and scripts with one case are.

1.  What lowers to a text that occurs in the lower form of another one stands in that other text
    (`exists_source`), so a caseless text occurs in lower forms only where it occurs as it stands.
2.  The other sources of a character are looked up in the table (`mem_otherSources_iff`).  A sigma, final
    or not, has one more, the capital, where a word can still end or still go on (`hasSourceAt_iff`).
3.  A text is caseless exactly if its characters are lowered ones without other sources
    (`isCaseless_iff`).
-/

namespace TagSearch

/-- A text that nothing else is lowered to, whatever stands around it.  The combining dot may also come
from the middle of a lower form, that of the dotted capital I, so a caseless text does not start with it. -/
structure Caseless (t : Text) : Prop where
  head_ne_dot : t.codePoints.head? ≠ some (.char '\u0307')
  source_iff : ∀ before source after,
    lowerBetween before source after = t.codePoints ↔ source = t.codePoints

section

variable {t : Text} {part cs before after : List CodePoint}

/-- A code point is lowered to one, but for the dotted capital I. -/
theorem lowerAt_cases (before : List CodePoint) (p : CodePoint) (after : List CodePoint) :
    lowerAt before p after = [.char 'i', .char '\u0307'] ∨ ∃ q, lowerAt before p after = [q] := by
  unfold lowerAt
  split
  · exact Or.inr ⟨_, rfl⟩
  · cases p with
    | lone s => exact Or.inr ⟨_, rfl⟩
    | char c =>
        rw [CodePoint.lowerAlone]
        split
        · exact Or.inl rfl
        · exact Or.inr ⟨_, rfl⟩

/-- The capital I is lowered to the letter i. -/
theorem lowerAlone_capital : CodePoint.lowerAlone (.char 'I') = [.char 'i'] := by decide +kernel

namespace Caseless

/-- A caseless text is its own source, so all that is in it is lowered. -/
theorem isLowered (h : Caseless t) {p : CodePoint} (hp : p ∈ t.codePoints) : IsLowered p := by
  rw [← (h.source_iff [] t.codePoints []).mpr rfl] at hp
  exact isLowered_of_mem_lowerBetween hp

/-- The capital I is another source of the letter i. -/
theorem i_notMem (h : Caseless t) : .char 'i' ∉ t.codePoints := by
  intro hi
  obtain ⟨l, r, hsplit⟩ := List.append_of_mem hi
  have hl : ∀ p ∈ l, IsLowered p := fun p hp => h.isLowered (by simp [hsplit, hp])
  have hr : ∀ p ∈ r, IsLowered p := fun p hp => h.isLowered (by simp [hsplit, hp])
  have hsource : lowerBetween [] (l ++ .char 'I' :: r) [] = t.codePoints := by
    rw [lowerBetween_append, lowerBetween, lowerAt_of_ne (by decide), lowerAlone_capital,
      lowerBetween_of_lowered hl, lowerBetween_of_lowered hr, hsplit]
    rfl
  have hsame := (h.source_iff _ _ _).mp hsource
  rw [hsplit, List.append_cancel_left_eq] at hsame
  exact absurd (List.cons.inj hsame).1 (by decide)

end Caseless

/-- Without the letter i, the start of a lower form is the lower form of a start. -/
theorem exists_source_of_isPrefix (hi : .char 'i' ∉ part) (h : part <+: lowerAfter before cs) :
    ∃ source rest, cs = source ++ rest ∧ lowerBetween before source rest = part := by
  induction cs generalizing part before with
  | nil => exact ⟨[], [], rfl, (List.prefix_nil.mp h).symm⟩
  | cons c rest ih =>
      cases part with
      | nil => exact ⟨[], c :: rest, rfl, rfl⟩
      | cons x xs =>
          rw [lowerAfter_cons] at h
          obtain hdotted | ⟨y, hy⟩ := lowerAt_cases before c rest
          · rw [hdotted] at h
            obtain ⟨rfl, -⟩ := List.cons_prefix_cons.mp h
            exact absurd List.mem_cons_self hi
          · rw [hy] at h
            obtain ⟨rfl, htail⟩ := List.cons_prefix_cons.mp h
            obtain ⟨source, after, rfl, hsource⟩ := ih (mt (List.mem_cons_of_mem x) hi) htail
            exact ⟨c :: source, after, rfl, by rw [lowerBetween, hy, hsource]; rfl⟩

/-- **What is found has a source.**  Without the letter i and the dot at its start, a text that occurs in a
lower form is the lower form of a part. -/
theorem exists_source (hi : .char 'i' ∉ part) (hdot : part.head? ≠ some (.char '\u0307'))
    (h : part <:+: lowerAfter before cs) :
    ∃ l source r, cs = l ++ source ++ r ∧ lowerBetween (l.reverse ++ before) source r = part := by
  induction cs generalizing before with
  | nil =>
      obtain rfl := List.infix_nil.mp h
      exact ⟨[], [], [], rfl, rfl⟩
  | cons c rest ih =>
      have hhere : part <+: lowerAfter before (c :: rest) →
          ∃ l source r, c :: rest = l ++ source ++ r ∧
            lowerBetween (l.reverse ++ before) source r = part := by
        intro hpart
        obtain ⟨source, r, hsplit, hsource⟩ := exists_source_of_isPrefix hi hpart
        exact ⟨[], source, r, hsplit, hsource⟩
      have hlater : part <:+: lowerAfter (c :: before) rest →
          ∃ l source r, c :: rest = l ++ source ++ r ∧
            lowerBetween (l.reverse ++ before) source r = part := by
        intro hpart
        obtain ⟨l, source, r, rfl, hsource⟩ := ih hpart
        exact ⟨c :: l, source, r, rfl, by simpa using hsource⟩
      rw [lowerAfter_cons] at h hhere
      obtain hdotted | ⟨x, hx⟩ := lowerAt_cases before c rest
      · rw [hdotted] at h hhere
        obtain hstart | hafter := List.infix_cons_iff.mp h
        · exact hhere hstart
        obtain hstart | hafter := List.infix_cons_iff.mp hafter
        · -- it would start with the dot
          obtain rfl | ⟨xs, rfl, -⟩ := List.prefix_cons_iff.mp hstart
          · exact hhere List.nil_prefix
          · exact absurd rfl hdot
        · exact hlater hafter
      · rw [hx] at h hhere
        obtain hstart | hafter := List.infix_cons_iff.mp h
        · exact hhere hstart
        · exact hlater hafter

/-- A caseless text that occurs in a lower form stands there already before. -/
theorem Caseless.occurs_of_occurs_lower (h : Caseless t)
    (hoccurs : t.codePoints <:+: lowerAfter [] cs) : t.codePoints <:+: cs := by
  obtain ⟨l, source, r, rfl, hsource⟩ := exists_source h.i_notMem h.head_ne_dot hoccurs
  obtain rfl := (h.source_iff _ _ _).mp hsource
  exact ⟨l, r, rfl⟩

/-- A caseless text is its own lower form. -/
theorem Caseless.lowerAfter_eq (h : Caseless t) (before : List CodePoint) :
    lowerAfter before t.codePoints = t.codePoints := by
  rw [← lowerBetween_nil]
  exact (h.source_iff before t.codePoints []).mpr rfl

/-- Where it stands, it stands also after lowering. -/
theorem Caseless.occurs_lower (h : Caseless t) (hoccurs : t.codePoints <:+: cs) :
    t.codePoints <:+: lowerAfter [] cs := by
  obtain ⟨l, r, rfl⟩ := hoccurs
  have hpart := lowerBetween_occurs l t.codePoints r
  rwa [(h.source_iff _ _ _).mpr rfl] at hpart

/-- What the table maps to has a code point. -/
theorem valid_lowercaseRuns :
    lowercaseRuns.all (fun r => decide (0 ≤ r.first + r.offset) &&
      (decide (r.last + r.offset < 0xd800) ||
        decide (0xdfff < r.first + r.offset) && decide (r.last + r.offset < 0x110000))) = true := by
  decide +kernel

/-- What a run would map to a character. -/
def LowercaseRun.sourceOf (run : LowercaseRun) (c : Char) : Nat := ((c.toNat : Int) - run.offset).toNat

/-- The code points other than the capital sigma that are lowered to another one, wherever they stand. -/
def otherSources : CodePoint → List CodePoint
  | .char c =>
    ((lowercaseRuns.filter fun run => run.has (run.sourceOf c)).map fun run =>
      CodePoint.char (Char.ofNat (run.sourceOf c))).filter fun p =>
        p != .char c && p != .char 'Σ' && p.lowerAlone == [.char c]
  | .lone _ => []

/-- A character that is lowered to another one is found by going back along the table. -/
theorem exists_run_of_lowerChar {c d : Char} (hne : d ≠ c) (hlower : lowerChar d = c) :
    ∃ run ∈ lowercaseRuns, run.has (run.sourceOf c) = true ∧ Char.ofNat (run.sourceOf c) = d := by
  unfold lowerChar at hlower
  split at hlower
  · rename_i run hfound
    have hrun := List.mem_of_find?_eq_some hfound
    have hhas : run.has d.toNat = true := by
      simpa using List.find?_some hfound
    obtain ⟨hfirst, hlast, -⟩ := LowercaseRun.has_iff.mp hhas
    have hvalid := List.all_eq_true.mp valid_lowercaseRuns run hrun
    simp only [Bool.and_eq_true, Bool.or_eq_true, decide_eq_true_eq] at hvalid
    have hcode : (Char.ofNat (d.toNat + run.offset).toNat).toNat = (d.toNat + run.offset).toNat := by
      apply toNat_charOfNat_of_valid
      unfold Nat.isValidChar
      omega
    have hback : run.sourceOf c = d.toNat := by
      rw [← hlower, LowercaseRun.sourceOf, hcode]
      omega
    exact ⟨run, hrun, hback ▸ hhas, by rw [hback, Char.ofNat_toNat]⟩
  · exact absurd hlower hne

/-- **The table gives all sources of a code point** but the capital sigma. -/
theorem mem_otherSources_iff {p q : CodePoint} :
    q ∈ otherSources p ↔ q ≠ p ∧ q ≠ .char 'Σ' ∧ q.lowerAlone = [p] := by
  cases p with
  | lone s =>
      refine iff_of_false List.not_mem_nil ?_
      rintro ⟨hne, -, hlower⟩
      cases q with
      | lone s' => exact hne (List.singleton_inj.mp hlower)
      | char d =>
          rw [CodePoint.lowerAlone] at hlower
          split at hlower
          · cases hlower
          · cases hlower
  | char c =>
      simp only [otherSources, List.mem_filter, Bool.and_eq_true, bne_iff_ne, beq_iff_eq, and_assoc]
      refine and_iff_right_of_imp ?_
      rintro ⟨hne, -, hlower⟩
      cases q with
      | lone s => cases hlower
      | char d =>
          rw [CodePoint.lowerAlone] at hlower
          split at hlower
          · cases hlower
          · obtain ⟨run, hrun, hhas, hsource⟩ :=
              exists_run_of_lowerChar (fun hd => hne (congrArg _ hd))
                (CodePoint.char.inj (List.singleton_inj.mp hlower))
            exact List.mem_map.mpr ⟨run, List.mem_filter.mpr ⟨hrun, hhas⟩, congrArg _ hsource⟩

/-- Whether a capital sigma between two texts, the first one reversed, ends a word with something around
both. -/
def mayEndWord (before after : List CodePoint) : Bool :=
  (before.all CodePoint.isIgnorable || meetsCased before) && !meetsCased after

/-- Whether it does not end a word with something around both. -/
def mayGoOn (before after : List CodePoint) : Bool :=
  !meetsCased before || after.all CodePoint.isIgnorable || meetsCased after

/-- A text that may end a word does so within some text. -/
theorem mayEndWord_iff {before after : List CodePoint} :
    mayEndWord before after = true ↔ ∃ l r, endsWord (before ++ l) (after ++ r) = true := by
  constructor
  · intro h
    refine ⟨[.char 'A'], [], ?_⟩
    rw [mayEndWord, Bool.and_eq_true, Bool.or_eq_true] at h
    rw [endsWord, List.append_nil, h.2, Bool.and_true, meetsCased_append, meetsCased_letter]
    split
    · rfl
    · rename_i hall
      exact h.1.resolve_left hall
  · rintro ⟨l, r, h⟩
    rw [endsWord, Bool.and_eq_true, Bool.not_eq_true', meetsCased_append, meetsCased_append] at h
    rw [mayEndWord]
    have hafter := @meetsCased_of_all after
    cases hl : before.all CodePoint.isIgnorable <;> cases hr : after.all CodePoint.isIgnorable <;> simp_all

/-- A text after which a word may go on is within some text where it does. -/
theorem mayGoOn_iff {before after : List CodePoint} :
    mayGoOn before after = true ↔ ∃ l r, endsWord (before ++ l) (after ++ r) = false := by
  constructor
  · intro h
    refine ⟨[], [.char 'A'], ?_⟩
    rw [mayGoOn, Bool.or_eq_true, Bool.or_eq_true, or_assoc] at h
    rw [endsWord, List.append_nil, meetsCased_append, meetsCased_letter]
    obtain h | h | h := h <;> simp_all
  · rintro ⟨l, r, h⟩
    rw [endsWord, meetsCased_append, meetsCased_append] at h
    rw [mayGoOn]
    have hbefore := @meetsCased_of_all before
    cases hl : before.all CodePoint.isIgnorable <;> cases hr : after.all CodePoint.isIgnorable <;>
      cases hmet : meetsCased before <;> simp_all

/-- Whether another character is lowered to one between two texts, the first one reversed, with something
around both. -/
def hasSourceAt (before : List CodePoint) (c : CodePoint) (after : List CodePoint) : Bool :=
  !(otherSources c).isEmpty || c == .char 'ς' && mayEndWord before after ||
    c == .char 'σ' && mayGoOn before after

/-- A code point has another source exactly if something else is lowered to it within some text. -/
theorem hasSourceAt_iff {before after : List CodePoint} {c : CodePoint} :
    hasSourceAt before c after = true ↔
      ∃ d l r, d ≠ c ∧ lowerAt (before ++ l) d (after ++ r) = [c] := by
  rw [hasSourceAt, Bool.or_eq_true, Bool.or_eq_true, Bool.and_eq_true, Bool.and_eq_true, mayEndWord_iff,
    mayGoOn_iff, beq_iff_eq, beq_iff_eq, Bool.not_eq_true', List.isEmpty_eq_false_iff_exists_mem]
  constructor
  · rintro ((⟨d, hd⟩ | ⟨rfl, l, r, hends⟩) | ⟨rfl, l, r, hends⟩)
    · obtain ⟨hne, hsigma, hlower⟩ := mem_otherSources_iff.mp hd
      exact ⟨d, [], [], hne, by rw [lowerAt_of_ne hsigma, hlower]⟩
    · exact ⟨.char 'Σ', l, r, by decide, by rw [lowerAt_sigma, hends]; rfl⟩
    · exact ⟨.char 'Σ', l, r, by decide, by rw [lowerAt_sigma, hends]; rfl⟩
  · rintro ⟨d, l, r, hne, hlower⟩
    by_cases hsigma : d = .char 'Σ'
    · subst hsigma
      rw [lowerAt_sigma, List.singleton_inj] at hlower
      cases hends : endsWord (before ++ l) (after ++ r) with
      | true => exact Or.inl (Or.inr ⟨by rw [← hlower, hends]; rfl, l, r, hends⟩)
      | false => exact Or.inr ⟨by rw [← hlower, hends]; rfl, l, r, hends⟩
    · rw [lowerAt_of_ne hsigma] at hlower
      exact Or.inl (Or.inl ⟨d, mem_otherSources_iff.mpr ⟨hne, hsigma, hlower⟩⟩)

/-- Whether the characters of a text that follows another one, given reversed, are lowered ones without
other sources. -/
def caselessAfter (before : List CodePoint) : List CodePoint → Bool
  | [] => true
  | c :: rest => decide (IsLowered c) && !hasSourceAt before c rest && caselessAfter (c :: before) rest

/-- Whether a text is caseless. -/
def isCaseless (t : Text) : Bool :=
  t.codePoints.head? != some (.char '\u0307') && caselessAfter [] t.codePoints

/-- The induction is on the text.  What was passed of it is the same in its source, so a source differs
first at a character with another source. -/
theorem eq_of_caselessAfter {l source : List CodePoint} (h : caselessAfter before cs = true)
    (hsource : lowerBetween (before ++ l) source after = cs) : source = cs := by
  induction cs generalizing before source with
  | nil =>
      have hlength := length_le_lowerBetween (before ++ l) source after
      rw [hsource] at hlength
      exact List.eq_nil_of_length_eq_zero (Nat.le_zero.mp hlength)
  | cons c rest ih =>
      rw [caselessAfter, Bool.and_eq_true, Bool.and_eq_true, Bool.not_eq_true'] at h
      obtain ⟨⟨-, hnone⟩, hrest⟩ := h
      have hitself : ∀ d l r, lowerAt (before ++ l) d (rest ++ r) = [c] → d = c := fun d l r hlower =>
        Decidable.byContradiction fun hne =>
          Bool.eq_false_iff.mp hnone (hasSourceAt_iff.mpr ⟨d, l, r, hne, hlower⟩)
      cases source with
      | nil => cases hsource
      | cons d source =>
          have hsplit : lowerAt (before ++ l) d (source ++ after) ++
              lowerBetween (d :: (before ++ l)) source after = c :: rest := hsource
          obtain hdotted | ⟨x, hx⟩ := lowerAt_cases (before ++ l) d (source ++ after)
          · rw [hdotted] at hsplit
            obtain ⟨rfl, -⟩ := List.cons.inj hsplit
            have hsame := hitself (.char 'I') [] []
              (by rw [lowerAt_of_ne (by decide), lowerAlone_capital])
            exact absurd hsame (by decide)
          · rw [hx] at hsplit
            obtain ⟨rfl, htail⟩ : x = c ∧ lowerBetween (d :: (before ++ l)) source after = rest :=
              List.cons.inj hsplit
            -- a sigma is met as a letter in each of its forms, so what follows it is lowered alike
            have hmet : meetsCased (d :: (before ++ l)) = meetsCased (x :: (before ++ l)) := by
              by_cases hsigma : d = .char 'Σ'
              · rw [hsigma, lowerAt_sigma, List.singleton_inj] at hx
                rw [hsigma, meetsCased_sigma, ← hx, meetsCased_loweredSigma]
              · rw [lowerAt_of_ne hsigma, ← lowerAt_of_ne hsigma (before ++ []) (rest ++ [])] at hx
                rw [hitself d [] [] hx]
            rw [lowerBetween_congr hmet rfl] at htail
            obtain rfl := ih hrest htail
            rw [hitself d l after hx]

/-- What has no other source is its own lower form. -/
theorem isLowered_of_caselessAfter (h : caselessAfter before cs = true) : ∀ c ∈ cs, IsLowered c := by
  induction cs generalizing before with
  | nil => exact nofun
  | cons c rest ih =>
      rw [caselessAfter, Bool.and_eq_true, Bool.and_eq_true, decide_eq_true_eq] at h
      exact List.forall_mem_cons.mpr ⟨h.1.1, ih h.2⟩

/-- A text that nothing but itself is lowered to has no other source at any place.  The induction is on
the text; what stands before a place is what was passed, with any letters before that. -/
theorem caselessAfter_of_source_iff
    (h : ∀ l source after, lowerBetween (before ++ l) source after = cs ↔ source = cs) :
    caselessAfter before cs = true := by
  have hlowered : ∀ c ∈ cs, IsLowered c := by
    intro c hc
    rw [← (h [] cs []).mpr rfl] at hc
    exact isLowered_of_mem_lowerBetween hc
  induction cs generalizing before with
  | nil => rfl
  | cons c rest ih =>
      have hc := hlowered c List.mem_cons_self
      have hkept : ∀ l r, lowerBetween l rest r = rest :=
        lowerBetween_of_lowered fun d hd => hlowered d (List.mem_cons_of_mem c hd)
      have hnone : hasSourceAt before c rest = false := by
        rw [Bool.eq_false_iff, ne_eq, hasSourceAt_iff]
        rintro ⟨d, l, r, hne, hlower⟩
        have hsame := (h l (d :: rest) r).mp (by rw [lowerBetween, hlower, hkept]; rfl)
        exact hne (List.cons.inj hsame).1
      have hrest : caselessAfter (c :: before) rest = true := by
        refine ih (fun l source after => ⟨fun hsource => ?_, ?_⟩)
          fun d hd => hlowered d (List.mem_cons_of_mem c hd)
        · have hwhole := (h l (c :: source) after).mp (by
            rw [lowerBetween, lowerAt_of_ne hc.1, hc.2]
            exact congrArg (c :: ·) hsource)
          exact (List.cons.inj hwhole).2
        · rintro rfl
          exact hkept _ _
      rw [caselessAfter, decide_eq_true hc, hnone, hrest]
      rfl

/-- **The check decides** which texts are caseless. -/
theorem isCaseless_iff : isCaseless t = true ↔ Caseless t := by
  rw [isCaseless, Bool.and_eq_true, bne_iff_ne]
  constructor
  · rintro ⟨hdot, hcaseless⟩
    refine ⟨hdot, fun before source after => ⟨eq_of_caselessAfter (l := before) hcaseless, ?_⟩⟩
    rintro rfl
    exact lowerBetween_of_lowered (isLowered_of_caselessAfter hcaseless) before after
  · intro h
    exact ⟨h.head_ne_dot, caselessAfter_of_source_iff h.source_iff⟩

end

end TagSearch
