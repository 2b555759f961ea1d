import TagSearch.Text.Lowercase

/-!
# Texts and their lower forms

A text is lowered character by character, and one character minds its neighbours: a capital sigma takes
its final form where it ends a word.  So the lower form of a part of a text depends on what stands around
the part, and `lowerBetween` is that form.

1.  What stands around a part matters in so far as a letter with case is met on either side
    (`lowerBetween_congr`).  Between letters on both sides and nothing, the part has the same form as alone
    exactly when each of its capital sigmas ends a word in both or in neither (`lowerBetween_eq_iff`).
2.  A lower form is its own lower form, whatever stands around it (`lowerBetween_of_lowered`,
    `Text.lower_lower`).  That rests on the table alone: nothing that it maps to is mapped any further
    (`apart_lowercaseRuns`).
-/

namespace TagSearch

/-- The first code point that matters decides whether a letter with case is met. -/
theorem meetsCased_cons (c : CodePoint) (cs : List CodePoint) :
    meetsCased (c :: cs) = if c.isIgnorable then meetsCased cs else c.isCased := by
  unfold meetsCased
  cases h : c.isIgnorable <;> simp [h]

/-- What follows a text is met only where nothing in the text matters. -/
theorem meetsCased_append (cs ds : List CodePoint) :
    meetsCased (cs ++ ds) =
      if cs.all CodePoint.isIgnorable then meetsCased ds else meetsCased cs := by
  induction cs with
  | nil => rfl
  | cons c rest ih =>
      rw [List.cons_append, meetsCased_cons, meetsCased_cons, ih, List.all_cons]
      cases c.isIgnorable <;> rfl

/-- Where nothing matters, no letter is met. -/
theorem meetsCased_of_all {cs : List CodePoint} (h : cs.all CodePoint.isIgnorable = true) :
    meetsCased cs = false := by
  rw [← List.append_nil cs, meetsCased_append, if_pos h]
  rfl

/-- The lower form of a character between two texts, the first one reversed. -/
def lowerAt (before : List CodePoint) (c : CodePoint) (after : List CodePoint) : List CodePoint :=
  if c = .char 'Σ' then [.char (if endsWord before after then 'ς' else 'σ')] else c.lowerAlone

/-- The lower form of a text between two others, the first one reversed. -/
def lowerBetween (before : List CodePoint) : List CodePoint → (after : List CodePoint) → List CodePoint
  | [], _ => []
  | c :: rest, after => lowerAt before c (rest ++ after) ++ lowerBetween (c :: before) rest after

/-- Only a capital sigma minds its neighbours. -/
theorem lowerAt_of_ne {c : CodePoint} (h : c ≠ .char 'Σ') (before after : List CodePoint) :
    lowerAt before c after = c.lowerAlone := if_neg h

/-- A capital sigma minds what stands around it. -/
theorem lowerAt_sigma (before after : List CodePoint) :
    lowerAt before (.char 'Σ') after = [.char (if endsWord before after then 'ς' else 'σ')] := if_pos rfl

/-- What was lowered stands before the rest. -/
theorem lowerAfter_cons (before : List CodePoint) (c : CodePoint) (rest : List CodePoint) :
    lowerAfter before (c :: rest) = lowerAt before c rest ++ lowerAfter (c :: before) rest := rfl

/-- The lower form of a text goes part by part. -/
theorem lowerAfter_append (before cs ds : List CodePoint) :
    lowerAfter before (cs ++ ds) =
      lowerBetween before cs ds ++ lowerAfter (cs.reverse ++ before) ds := by
  induction cs generalizing before with
  | nil => rfl
  | cons c rest ih =>
      rw [List.cons_append, lowerAfter_cons, ih, lowerBetween, List.append_assoc, List.reverse_cons,
        List.append_assoc, List.singleton_append]

/-- Nothing behind a text is the end of it. -/
theorem lowerBetween_nil (before cs : List CodePoint) : lowerBetween before cs [] = lowerAfter before cs := by
  have h := lowerAfter_append before cs []
  rwa [List.append_nil, lowerAfter, List.append_nil, eq_comm] at h

/-- For each of two parts the other one is among its surroundings. -/
theorem lowerBetween_append (before cs ds after : List CodePoint) :
    lowerBetween before (cs ++ ds) after =
      lowerBetween before cs (ds ++ after) ++ lowerBetween (cs.reverse ++ before) ds after := by
  induction cs generalizing before with
  | nil => rfl
  | cons c rest ih => simp [lowerBetween, ih]

/-- The lower form of a part stands in the lower form of the whole. -/
theorem lowerBetween_occurs (before cs after : List CodePoint) :
    lowerBetween before.reverse cs after <:+: lowerAfter [] (before ++ cs ++ after) := by
  rw [List.append_assoc, lowerAfter_append, lowerAfter_append, List.append_nil]
  exact List.infix_append' _ _ _

/-- A capital sigma and what stands on its sides in the same text. -/
theorem lowerBetween_sigma (before l r after : List CodePoint) :
    lowerBetween before (l ++ .char 'Σ' :: r) after =
      lowerBetween before l (.char 'Σ' :: (r ++ after)) ++
        .char (if endsWord (l.reverse ++ before) (r ++ after) then 'ς' else 'σ') ::
          lowerBetween (.char 'Σ' :: (l.reverse ++ before)) r after := by
  rw [lowerBetween_append, lowerBetween, lowerAt_sigma, List.cons_append, List.singleton_append]

/-- A code point gives one at least. -/
theorem CodePoint.one_le_length_lowerAlone (p : CodePoint) : 1 ≤ p.lowerAlone.length := by
  cases p with
  | lone s => exact Nat.le_refl 1
  | char c =>
      rw [lowerAlone]
      split <;> simp

/-- So a text does not get shorter. -/
theorem length_le_lowerBetween (before cs after : List CodePoint) :
    cs.length ≤ (lowerBetween before cs after).length := by
  induction cs generalizing before with
  | nil => exact Nat.le_refl 0
  | cons c rest ih =>
      have hone : 1 ≤ (lowerAt before c (rest ++ after)).length := by
        unfold lowerAt
        split
        · exact Nat.le_refl 1
        · exact c.one_le_length_lowerAlone
      rw [lowerBetween, List.length_append, List.length_cons, Nat.add_comm]
      exact Nat.add_le_add hone (ih (c :: before))

/-- **When two places are alike for a part**: each capital sigma of it ends a word at both or at neither.
The induction is on the part; what was passed of it joins what stands before. -/
theorem lowerBetween_eq_iff {before before' after after' : List CodePoint} (cs : List CodePoint) :
    lowerBetween before cs after = lowerBetween before' cs after' ↔
      ∀ l r, cs = l ++ .char 'Σ' :: r →
        endsWord (l.reverse ++ before) (r ++ after) = endsWord (l.reverse ++ before') (r ++ after') := by
  induction cs generalizing before before' with
  | nil => simp [lowerBetween]
  | cons c rest ih =>
      have hlength : (lowerAt before c (rest ++ after)).length =
          (lowerAt before' c (rest ++ after')).length := by
        unfold lowerAt
        split <;> rfl
      have hhead : lowerAt before c (rest ++ after) = lowerAt before' c (rest ++ after') ↔
          (c = .char 'Σ' → endsWord before (rest ++ after) = endsWord before' (rest ++ after')) := by
        by_cases hc : c = .char 'Σ'
        · subst hc
          rw [lowerAt_sigma, lowerAt_sigma]
          cases endsWord before (rest ++ after) <;> cases endsWord before' (rest ++ after') <;> simp
        · simp [lowerAt_of_ne hc, hc]
      constructor
      · intro h l r hsplit
        obtain ⟨hfirst, hrest⟩ := List.append_inj h hlength
        cases l with
        | nil =>
            obtain ⟨rfl, rfl⟩ := List.cons.inj hsplit
            exact hhead.mp hfirst rfl
        | cons d l =>
            obtain ⟨rfl, htail⟩ := List.cons.inj hsplit
            simpa using ih.mp hrest l r htail
      · intro h
        have hfirst := hhead.mpr fun hc => h [] rest (by rw [hc, List.nil_append])
        have hrest : lowerBetween (c :: before) rest after = lowerBetween (c :: before') rest after' := by
          rw [ih]
          intro l r hsplit
          simpa using h (c :: l) r (by rw [hsplit, List.cons_append])
        rw [lowerBetween, lowerBetween, hfirst, hrest]

/-- What stands around a part matters in so far as a letter with case is met. -/
theorem lowerBetween_congr {before before' after after' : List CodePoint}
    (hbefore : meetsCased before = meetsCased before') (hafter : meetsCased after = meetsCased after')
    (cs : List CodePoint) : lowerBetween before cs after = lowerBetween before' cs after' := by
  rw [lowerBetween_eq_iff]
  intro l r _
  simp only [endsWord, meetsCased_append, hbefore, hafter]

/-- A letter with case in front is met. -/
theorem meetsCased_of_cased {c : CodePoint} (hignorable : c.isIgnorable = false)
    (hcased : c.isCased = true) (cs : List CodePoint) : meetsCased (c :: cs) = true := by
  rw [meetsCased_cons, hignorable, if_neg Bool.false_ne_true, hcased]

/-- A capital sigma is one. -/
theorem meetsCased_sigma (cs : List CodePoint) : meetsCased (.char 'Σ' :: cs) = true :=
  meetsCased_of_cased (by decide +kernel) (by decide +kernel) cs

/-- So are both of its small forms. -/
theorem meetsCased_loweredSigma (final : Bool) (cs : List CodePoint) :
    meetsCased (.char (if final then 'ς' else 'σ') :: cs) = true := by
  cases final <;> exact meetsCased_of_cased (by decide +kernel) (by decide +kernel) cs

/-- So is the capital A. -/
theorem meetsCased_letter (cs : List CodePoint) : meetsCased (.char 'A' :: cs) = true :=
  meetsCased_of_cased (by decide +kernel) (by decide +kernel) cs

/-- The capital A is lowered to the small one wherever it stands. -/
theorem lowerBetween_letter (before after : List CodePoint) :
    lowerBetween before [.char 'A'] after = [.char 'a'] := by
  have hletter : CodePoint.lowerAlone (.char 'A') = [.char 'a'] := by decide +kernel
  rw [lowerBetween, lowerAt_of_ne (by decide), hletter, lowerBetween, List.append_nil]

/-- A text in which nothing matters has no capital sigma, so it has one form wherever it stands. -/
theorem lowerBetween_of_all {cs : List CodePoint} (h : cs.all CodePoint.isIgnorable = true)
    (before before' after after' : List CodePoint) :
    lowerBetween before cs after = lowerBetween before' cs after' := by
  rw [lowerBetween_eq_iff]
  rintro l r rfl
  have hnone := meetsCased_of_all h
  rw [List.all_append, Bool.and_eq_true] at h
  rw [meetsCased_append, if_pos h.1, meetsCased_sigma] at hnone
  cases hnone



/-- Whether no character of the second run is one that the first run maps to: those lie below or above
it, or between its members. -/
def LowercaseRun.apart (r s : LowercaseRun) : Bool :=
  Nat.blt (r.last + r.offset).toNat s.first || Nat.blt s.last (r.first + r.offset).toNat ||
    (s.step == 2 && (r.step == 2 || r.first == r.last) && (r.first + r.offset - s.first) % 2 == 1)

/-- The dotted capital I as a run of its own. -/
def dottedRun : LowercaseRun := ⟨0x0130, 0x0130, 1, 0⟩

/-- Nothing that the table maps to is mapped any further. -/
theorem apart_lowercaseRuns :
    lowercaseRuns.all (fun r => (dottedRun :: lowercaseRuns).all r.apart) = true := by decide +kernel

/-- The table does not mention the character of zero. -/
theorem zero_notMem_lowercaseRuns : ∀ s ∈ dottedRun :: lowercaseRuns, s.has 0 = false := by
  decide +kernel

/-- A run has the codes from its first to its last that are whole steps from the first. -/
theorem LowercaseRun.has_iff {run : LowercaseRun} {n : Nat} :
    run.has n = true ↔ run.first ≤ n ∧ n ≤ run.last ∧ (n - run.first) % run.step = 0 := by
  simp [has, and_assoc]

/-- Where runs are apart, the second one does not have what the first one maps to. -/
theorem LowercaseRun.not_has_of_apart {r s : LowercaseRun} (h : r.apart s = true) {n t : Nat}
    (hn : r.has n = true) (ht : (t : Int) = n + r.offset) : s.has t = false := by
  rw [Bool.eq_false_iff, ne_eq, has_iff]
  rintro ⟨hfirst, hlast, hstep⟩
  obtain ⟨hnfirst, hnlast, hnstep⟩ := has_iff.mp hn
  simp only [apart, Bool.or_eq_true, Bool.and_eq_true, Nat.blt_eq, beq_iff_eq] at h
  obtain (hbelow | habove) | ⟨⟨htwo, hr⟩, hodd⟩ := h
  · omega
  · omega
  · rw [htwo] at hstep
    obtain hr | hr := hr
    · rw [hr] at hnstep
      omega
    · omega

/-- A code point that lowering leaves as it is, wherever it stands. -/
def IsLowered (p : CodePoint) : Prop := p ≠ .char 'Σ' ∧ p.lowerAlone = [p]

instance (p : CodePoint) : Decidable (IsLowered p) := by
  unfold IsLowered
  infer_instance

/-- A character that is in no run stays as it is. -/
theorem isLowered_of_runs {c : Char} (h : ∀ s ∈ dottedRun :: lowercaseRuns, s.has c.toNat = false) :
    IsLowered (.char c) := by
  have hsigma : CodePoint.char c ≠ .char 'Σ' := by
    intro hc
    obtain rfl := CodePoint.char.inj hc
    exact absurd h (by decide +kernel)
  have hdotted : c ≠ '\u0130' := by
    rintro rfl
    exact absurd (h dottedRun List.mem_cons_self) (by decide)
  have hfound : lowercaseRuns.find? (·.has c.toNat) = none := by
    rw [List.find?_eq_none]
    intro s hs
    rw [h s (List.mem_cons_of_mem _ hs)]
    exact Bool.false_ne_true
  refine ⟨hsigma, ?_⟩
  rw [CodePoint.lowerAlone, if_neg hdotted, lowerChar, hfound]

/-- So does a surrogate. -/
theorem isLowered_lone (s : Surrogate) : IsLowered (.lone s) := ⟨nofun, rfl⟩

/-- A code point makes a character with that code. -/
theorem toNat_charOfNat_of_valid {n : Nat} (h : n.isValidChar) : (Char.ofNat n).toNat = n := by
  rw [Char.ofNat, dif_pos h]
  rfl

/-- A number that is no code point gives the character of zero. -/
theorem toNat_charOfNat (n : Nat) : (Char.ofNat n).toNat = n ∨ (Char.ofNat n).toNat = 0 := by
  by_cases h : n.isValidChar
  · exact Or.inl (toNat_charOfNat_of_valid h)
  · rw [Char.ofNat, dif_neg h]
    exact Or.inr rfl

/-- What a character is lowered to stays as it is. -/
theorem isLowered_lowerChar {c : Char} (hc : c ≠ '\u0130') : IsLowered (.char (lowerChar c)) := by
  apply isLowered_of_runs
  unfold lowerChar
  split
  · rename_i r hfound
    have hr := List.mem_of_find?_eq_some hfound
    have hhas : r.has c.toNat = true := by
      simpa using List.find?_some hfound
    intro s hs
    obtain hcode | hcode := toNat_charOfNat (c.toNat + r.offset).toNat
    · rw [hcode]
      by_cases hpos : 0 ≤ c.toNat + r.offset
      · have hapart := List.all_eq_true.mp (List.all_eq_true.mp apart_lowercaseRuns r hr) s hs
        exact LowercaseRun.not_has_of_apart hapart hhas (Int.toNat_of_nonneg hpos)
      · rw [Int.toNat_of_nonpos (by omega)]
        exact zero_notMem_lowercaseRuns s hs
    · rw [hcode]
      exact zero_notMem_lowercaseRuns s hs
  · rename_i hfound
    rw [List.find?_eq_none] at hfound
    intro s hs
    obtain rfl | hs := List.mem_cons.mp hs
    · rw [Bool.eq_false_iff, ne_eq, LowercaseRun.has_iff]
      rintro ⟨hfirst, hlast, -⟩
      exact hc (Char.toNat_inj.mp (Nat.le_antisymm hlast hfirst))
    · exact Bool.eq_false_iff.mpr (hfound s hs)

/-- Whatever a code point is lowered to stays as it is. -/
theorem isLowered_of_mem_lowerAt {before after : List CodePoint} {p q : CodePoint}
    (h : q ∈ lowerAt before p after) : IsLowered q := by
  by_cases hsigma : p = .char 'Σ'
  · rw [hsigma, lowerAt_sigma, List.mem_singleton] at h
    rw [h]
    split <;> decide +kernel
  · rw [lowerAt_of_ne hsigma] at h
    cases p with
    | lone s =>
        obtain rfl := List.mem_singleton.mp h
        exact isLowered_lone s
    | char c =>
        rw [CodePoint.lowerAlone] at h
        split at h
        · obtain rfl | h := List.mem_cons.mp h
          · decide +kernel
          · obtain rfl := List.mem_singleton.mp h
            decide +kernel
        · rename_i hdotted
          obtain rfl := List.mem_singleton.mp h
          exact isLowered_lowerChar hdotted

/-- So does what a part of a text is lowered to. -/
theorem isLowered_of_mem_lowerBetween {before points after : List CodePoint} {q : CodePoint}
    (h : q ∈ lowerBetween before points after) : IsLowered q := by
  induction points generalizing before with
  | nil => cases h
  | cons p rest ih =>
      obtain h | h := List.mem_append.mp h
      · exact isLowered_of_mem_lowerAt h
      · exact ih h

/-- **A text of lowered code points** is its own lower form in whatever surroundings. -/
theorem lowerBetween_of_lowered {points : List CodePoint} (h : ∀ p ∈ points, IsLowered p)
    (before after : List CodePoint) : lowerBetween before points after = points := by
  induction points generalizing before with
  | nil => rfl
  | cons p rest ih =>
      obtain ⟨hsigma, hp⟩ := h p List.mem_cons_self
      rw [lowerBetween, lowerAt_of_ne hsigma, hp,
        ih (fun q hq => h q (List.mem_cons_of_mem p hq)), List.singleton_append]

/-- What was lowered behind one text is lowered behind any. -/
theorem lowerAfter_lowerAfter (before before' points : List CodePoint) :
    lowerAfter before' (lowerAfter before points) = lowerAfter before points := by
  rw [← lowerBetween_nil before', ← lowerBetween_nil before]
  exact lowerBetween_of_lowered (fun q hq => isLowered_of_mem_lowerBetween hq) before' []

/-- The code points of a lower form. -/
@[simp] theorem Text.codePoints_lower (t : Text) : t.lower.codePoints = lowerAfter [] t.codePoints :=
  codePoints_ofCodePoints _

/-- **Lowering twice** is lowering once. -/
theorem Text.lower_lower (t : Text) : t.lower.lower = t.lower := by
  rw [lower, codePoints_lower, lowerAfter_lowerAfter, ← lower]

end TagSearch
