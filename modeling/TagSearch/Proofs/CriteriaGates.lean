import TagSearch.Proofs.WrittenNumbers
import TagSearch.Tools

/-!
# The gates that criteria pass

Three parts of the library decide on their own which JSON values are criteria.  The validator looks
at the shape of a value and reports what is wrong with it.  The schema of a request reads entries
strictly, as whole numbers or lists of them.  The compiler takes the elements of any value, a list
among them as a group, and reads the sign of whatever has one; it also compiles truth values and
whole floating-point numbers, so it is no gate by itself.

The language of the first two is the same: what criteria are written as, and null for none
(`isValid_validate_iff`, `SearchCriteria.decode_tags_iff`).  On this language nothing is read
leniently, so the compiler cannot fail behind them.  `criteria_gates_agree` puts the three together.
-/

namespace TagSearch

/-- No entry of a group is bad exactly when the group is one of whole numbers. -/
theorem Json.filter_not_isTagId_eq_nil_iff {entries : List Json} :
    entries.filter (!·.isTagId) = [] ↔ ∃ ids : List Int, entries = ids.map Json.int := by
  constructor
  · intro h
    induction entries with
    | nil => exact ⟨[], rfl⟩
    | cons v rest ih =>
        rw [List.filter_cons] at h
        cases v with
        | int n =>
            obtain ⟨ids, rfl⟩ := ih h
            exact ⟨n :: ids, rfl⟩
        | _ => cases h
  · rintro ⟨ids, rfl⟩
    rw [List.filter_eq_nil_iff]
    intro v hv
    obtain ⟨n, _, rfl⟩ := List.mem_map.mp hv
    exact Bool.false_ne_true

namespace Verdict

/-- Two verdicts together find nothing wrong if neither does. -/
theorem isValid_append {v w : Verdict} :
    (v.append w).isValid = true ↔ v.isValid = true ∧ w.isValid = true := by
  simp [isValid, append]

/-- A warning does not make criteria invalid. -/
theorem isValid_warn (ws : List CriteriaWarning) : (warn ws).isValid = true := rfl

end Verdict

section

variable {i : Nat} {v : Json}

/-- A group is valid exactly if it is one of whole numbers. -/
theorem isValid_validateGroup_iff {entries : List Json} :
    (validateGroup i entries).isValid = true ↔ ∃ ids : List Int, entries = ids.map Json.int := by
  rw [← Json.filter_not_isTagId_eq_nil_iff, validateGroup]
  split
  · rename_i hempty
    obtain rfl := List.isEmpty_iff.mp hempty
    exact iff_of_true (Verdict.isValid_warn _) rfl
  · split
    · rename_i hnone
      exact iff_of_true (Verdict.isValid_warn _) hnone
    · rename_i hsome
      exact iff_of_false Bool.false_ne_true hsome

/-- An entry is valid exactly if it is what a criterion is written as. -/
theorem isValid_validateCriterion_iff :
    (validateCriterion i v).isValid = true ↔ ∃ c : Criterion, v = c.toJson := by
  cases v with
  | int n => exact iff_of_true rfl ⟨.tag n, rfl⟩
  | arr entries =>
      rw [validateCriterion, isValid_validateGroup_iff]
      constructor
      · rintro ⟨ids, rfl⟩
        exact ⟨.group ids, rfl⟩
      · rintro ⟨c, hc⟩
        cases c with
        | tag n => cases hc
        | group ids => exact ⟨ids, Json.arr.inj hc⟩
  | _ =>
      refine iff_of_false Bool.false_ne_true ?_
      rintro ⟨c, hc⟩
      cases c <;> cases hc

/-- An error at any position makes the verdict on all of them invalid: the positions only go into the
wording, and no verdict takes an earlier error back. -/
theorem isValid_validateFrom_iff {vs : List Json} :
    (validateFrom i vs).isValid = true ↔ ∃ cs : List Criterion, vs = cs.map Criterion.toJson := by
  induction vs generalizing i with
  | nil => exact iff_of_true rfl ⟨[], rfl⟩
  | cons v rest ih =>
      rw [validateFrom, Verdict.isValid_append, isValid_validateCriterion_iff, ih]
      constructor
      · rintro ⟨⟨c, rfl⟩, ⟨cs, rfl⟩⟩
        exact ⟨c :: cs, rfl⟩
      · rintro ⟨cs, hcs⟩
        cases cs with
        | nil => cases hcs
        | cons c cs =>
            obtain ⟨hc, hcs⟩ := List.cons.inj hcs
            exact ⟨⟨c, hc⟩, cs, hcs⟩

/-- **What the validator lets through**: null, and what criteria are written as. -/
theorem isValid_validate_iff :
    (validate v).isValid = true ↔ v = .null ∨ ∃ cs, v = Criterion.listToJson cs := by
  cases v with
  | null => exact iff_of_true rfl (Or.inl rfl)
  | arr criteria =>
      rw [validate, Verdict.isValid_append, and_iff_right (Verdict.isValid_warn _),
        isValid_validateFrom_iff]
      constructor
      · rintro ⟨cs, rfl⟩
        exact Or.inr ⟨cs, rfl⟩
      · rintro (hnull | ⟨cs, hcs⟩)
        · cases hnull
        · exact ⟨cs, Json.arr.inj hcs⟩
  | _ =>
      refine iff_of_false Bool.false_ne_true ?_
      rintro (hnull | ⟨cs, hcs⟩)
      · cases hnull
      · cases hcs

/-- The field for criteria takes what criteria are written as, and null for none. -/
theorem Checked.nullable_decodeAll_eq_accepted_iff {tags : Option (List Criterion)} :
    Checked.nullable Criterion.decodeAll v = .accepted tags ↔
      Json.ofOption (tags.map Criterion.listToJson) = v := by
  cases tags with
  | none =>
      cases v with
      | null => exact iff_of_true rfl rfl
      | _ => simp [Checked.nullable, Json.ofOption]
  | some cs =>
      have hlist : Json.ofOption ((some cs).map Criterion.listToJson) = v ↔
          Criterion.decodeAll v = .accepted cs := by
        rw [Criterion.decodeAll_eq_accepted_iff]
        exact eq_comm
      rw [hlist]
      cases v with
      | null => exact iff_of_false nofun nofun
      | _ => simp [Checked.nullable]

/-- **What the schema lets through** as criteria without a title, it keeps as it came. -/
theorem SearchCriteria.decode_tags_iff {c : SearchCriteria} :
    decode (.obj [("tags", v)]) = .accepted c ↔
      c.title = none ∧ Json.ofOption (c.tags.map Criterion.listToJson) = v := by
  have htags : Json.lookup "tags" [("tags", v)] = some v := rfl
  have htitle : Checked.defaulted "title" none (.nullable .text) [("tags", v)] =
      .accepted none := rfl
  have hread : decode (.obj [("tags", v)]) = .accepted c ↔
      ∃ mk title, (∃ tags, Checked.nullable Criterion.decodeAll v = .accepted tags ∧
        SearchCriteria.mk tags = mk) ∧ (none : Option Text) = title ∧ mk title = c := by
    show _ <*> _ = Checked.accepted c ↔ _
    simp only [Checked.seq_eq_accepted_iff, Checked.fmap_eq_accepted_iff,
      Checked.defaulted_eq_accepted_iff htags, htitle, Checked.accepted.injEq]
  rw [hread]
  simp only [Checked.nullable_decodeAll_eq_accepted_iff]
  constructor
  · rintro ⟨_, _, ⟨tags, hkept, rfl⟩, rfl, rfl⟩
    exact ⟨rfl, hkept⟩
  · rintro ⟨hnone, hkept⟩
    obtain ⟨tags, title⟩ := c
    subst hnone
    exact ⟨_, _, ⟨tags, hkept, rfl⟩, rfl, rfl⟩

/-- What tells valid criteria by their report tells them at all, as they always have one. -/
theorem exists_report_iff {P : Report → Prop}
    (hP : P (.ofVerdict (validate v)) ↔ (validate v).isValid = true) :
    (∃ r, (validate v).report = .ok r ∧ P r) ↔ (validate v).isValid = true := by
  constructor
  · rintro ⟨r, hr, hsays⟩
    obtain ⟨-, rfl⟩ := Verdict.report_eq_ok_iff.mp hr
    exact hP.mp hsays
  · intro hvalid
    exact ⟨_, report_of_isValid hvalid, hP.mpr hvalid⟩

/-- Valid criteria that are compiled are logged and counted before the answer is written. -/
theorem compileTool_of_compiled {m : Metrics} {p : Predicate} (hvalid : (validate v).isValid = true)
    (hcompile : compileJson v = .ok p) :
    compileTool m v =
      .logged m { operation := "tags_compile", extra := [("criteria_count", .int v.itemCount)] }
        (.compiled p (Report.ofVerdict (validate v)).warnings) := by
  have hgood : (Report.ofVerdict (validate v)).valid = true := hvalid
  rw [compileTool, report_of_isValid hvalid]
  simp only [hgood, hcompile]
  rfl

/-- **An id that is too long stops the answer** after all of that. -/
theorem compileTool_text_of_long {m : Metrics} {p : Predicate} (hvalid : (validate v).isValid = true)
    (hcompile : compileJson v = .ok p) (hlong : ∃ n ∈ p.numbers, fitsText n = false) :
    (compileTool m v).text = .error .numberTooLong := by
  rw [compileTool_of_compiled hvalid hcompile]
  exact ifFitting_eq_error_iff.mpr ⟨hlong, rfl⟩

/-- What a compilation comes to is a predicate exactly if the criteria are valid and compiled. -/
theorem compileTool_outcome_iff {m : Metrics} {p : Predicate} {warnings : List String} :
    (compileTool m v).outcome = .ok (.compiled p warnings) ↔
      (validate v).isValid = true ∧ compileJson v = .ok p ∧
        (Report.ofVerdict (validate v)).warnings = warnings := by
  constructor
  · intro h
    rw [compileTool] at h
    split at h
    · cases h
    · rename_i report hreport
      obtain ⟨-, rfl⟩ := Verdict.report_eq_ok_iff.mp hreport
      split at h
      · cases h
      · rename_i hvalid
        split at h
        · cases h
        · rename_i q hcompile
          cases h
          exact ⟨by simpa [Report.ofVerdict] using hvalid, hcompile, rfl⟩
  · rintro ⟨hvalid, hcompile, rfl⟩
    rw [compileTool_of_compiled hvalid hcompile]
    rfl

/-- The answer of a compilation is a predicate exactly if the ids in it can be written as well. -/
theorem compileTool_answer_iff {m : Metrics} :
    (∃ p warnings, (compileTool m v).answer = .ok (.compiled p warnings)) ↔
      (validate v).isValid = true ∧
        ∃ p, compileJson v = .ok p ∧ ∀ n ∈ p.numbers, fitsText n = true := by
  simp only [ToolRun.answer_eq_ok_iff, compileTool_outcome_iff, ToolAnswer.write, ifFitting_eq_ok_iff]
  constructor
  · rintro ⟨p, -, ⟨hvalid, hcompile, -⟩, -, hfit, -⟩
    exact ⟨hvalid, p, hcompile, hfit⟩
  · rintro ⟨hvalid, p, hcompile, hfit⟩
    exact ⟨p, _, ⟨hvalid, hcompile, rfl⟩, _, hfit, rfl⟩

end

/-- **The gates agree on every JSON value.**  The validator gives a valid report exactly when the schema
takes the value as criteria, and the schema keeps it unchanged.  Unless it is null, such a value is then
compiled to a conjunction without a fault.  So on a list the compiling tool answers with a predicate exactly
when the validator gives a report without an error and every number in the list can be written. -/
theorem criteria_gates_agree (v : Json) :
    ((∃ r, (validate v).report = .ok r ∧ r.valid = true) ↔
      ∃ c, SearchCriteria.decode (.obj [("tags", v)]) = .accepted c) ∧
    (∀ c, SearchCriteria.decode (.obj [("tags", v)]) = .accepted c ↔
      c.title = none ∧ Json.ofOption (c.tags.map Criterion.listToJson) = v) ∧
    (∀ r, (validate v).report = .ok r → r.valid = true → v ≠ .null →
      ∃ children, compileJson v = .ok (.all children)) ∧
    ∀ (m : Metrics) (items : List Json), v = .arr items →
      ((∃ p warnings, (compileTool m v).answer = .ok (.compiled p warnings)) ↔
        (∃ r, (validate v).report = .ok r ∧ r.errors = []) ∧ ∀ n ∈ v.numbers, fitsText n = true) := by
  have hvalid_iff : (∃ r, (validate v).report = .ok r ∧ r.valid = true) ↔
      (validate v).isValid = true := exists_report_iff Iff.rfl
  have herrors_iff : (∃ r, (validate v).report = .ok r ∧ r.errors = []) ↔
      (validate v).isValid = true :=
    exists_report_iff (List.map_eq_nil_iff.trans List.isEmpty_iff.symm)
  refine ⟨?_, fun c => SearchCriteria.decode_tags_iff, ?_, ?_⟩
  · rw [hvalid_iff, isValid_validate_iff]
    simp only [SearchCriteria.decode_tags_iff]
    constructor
    · rintro (rfl | ⟨cs, rfl⟩)
      · exact ⟨⟨none, none⟩, rfl, rfl⟩
      · exact ⟨⟨some cs, none⟩, rfl, rfl⟩
    · rintro ⟨⟨tags, _⟩, -, rfl⟩
      cases tags with
      | none => exact Or.inl rfl
      | some cs => exact Or.inr ⟨cs, rfl⟩
  · intro r hr hvalid hnull
    obtain rfl | ⟨cs, rfl⟩ := isValid_validate_iff.mp (hvalid_iff.mp ⟨r, hr, hvalid⟩)
    · exact absurd rfl hnull
    · exact ⟨_, compileJson_listToJson cs⟩
  · rintro m items rfl
    rw [compileTool_answer_iff, herrors_iff]
    refine and_congr_right fun hvalid => ?_
    obtain hnull | ⟨cs, hcs⟩ := isValid_validate_iff.mp hvalid
    · cases hnull
    · have hfit : (∀ n ∈ (compile cs).numbers, fitsText n = true) ↔
          (Criterion.listToJson cs).NumbersFit := compile_numbersFit_iff
      rw [hcs, compileJson_listToJson]
      simpa [Json.NumbersFit] using hfit

/-- A single id, a group with both signs and an empty group pass all three; a true value among them
stops at the first two, although it could be compiled. -/
theorem mixed_criteria_pass_gates :
    let good : Json := .arr [.int 5, .arr [.int (-7), .int 0, .int 5], .arr []]
    let bad : Json := .arr [.int 5, .bool true]
    (∃ r, (validate good).report = .ok r ∧ r.valid = true) ∧ good ≠ .null ∧
      (∃ c, SearchCriteria.decode (.obj [("tags", good)]) = .accepted c) ∧
      (∃ children, compileJson good = .ok (.all children)) ∧
      (∃ p warnings, (compileTool ⟨[], []⟩ good).answer = .ok (.compiled p warnings)) ∧
      (∃ children, compileJson bad = .ok (.all children)) ∧
      (∃ r, (validate bad).report = .ok r ∧ r.valid = false) ∧
      ¬ ∃ c, SearchCriteria.decode (.obj [("tags", bad)]) = .accepted c := by
  intro good bad
  have hgood : (validate good).report = .ok (.ofVerdict (validate good)) :=
    report_of_isValid (v := good) rfl
  have hbad : (validate bad).report = .ok (.ofVerdict (validate bad)) := rfl
  have hnull : good ≠ .null := nofun
  obtain ⟨hschema, -, hcompile, htool⟩ := criteria_gates_agree good
  refine ⟨⟨_, hgood, rfl⟩, hnull, hschema.mp ⟨_, hgood, rfl⟩, hcompile _ hgood rfl hnull,
    (htool _ _ rfl).mpr ⟨⟨_, hgood, rfl⟩, by decide⟩, ⟨_, rfl⟩, ⟨_, hbad, rfl⟩, ?_⟩
  rw [← (criteria_gates_agree bad).1, hbad]
  rintro ⟨r, hr, hvalid⟩
  obtain rfl := Except.ok.inj hr
  cases hvalid

/-- **An id that is too long has no answer.**  The criteria are valid and compiled, and the call is counted;
then the predicate cannot be written. -/
theorem long_id_has_no_answer :
    let v : Json := .arr [.int (10 ^ maxDigits)]
    (∃ r, (validate v).report = .ok r ∧ r.errors = []) ∧
      (∃ children, compileJson v = .ok (.all children)) ∧
      (¬∃ p warnings, (compileTool {} v).answer = .ok (.compiled p warnings)) ∧
      (compileTool {} v).text = .error .numberTooLong ∧
      (compileTool {} v).metrics.calls.of "tags_compile" = 1 := by
  intro v
  have hvalid : (validate v).isValid = true := rfl
  have hcompile : compileJson v = .ok (compile [.tag (10 ^ maxDigits)]) :=
    compileJson_listToJson [.tag (10 ^ maxDigits)]
  have hlong : ∃ n ∈ (compile [.tag (10 ^ maxDigits)]).numbers, fitsText n = false :=
    ⟨_, mem_numbers_compile_iff.mpr ⟨_, List.mem_singleton_self _, _, List.mem_singleton_self _, rfl⟩,
      (fitsText_natAbs _).trans not_fitsText_pow⟩
  refine ⟨⟨_, report_of_isValid hvalid, rfl⟩, ⟨_, hcompile⟩, ?_, ?_, ?_⟩
  · rw [compileTool_answer_iff]
    rintro ⟨-, p, hp, hfit⟩
    obtain rfl := Except.ok.inj (hcompile.symm.trans hp)
    obtain ⟨n, hn, hnot⟩ := hlong
    exact Bool.false_ne_true (hnot.symm.trans (hfit n hn))
  · exact compileTool_text_of_long hvalid hcompile hlong
  · have hcount : ∀ (i : Invocation) (a : ToolAnswer), i.operation = "tags_compile" →
        (ToolRun.logged {} i a).metrics.calls.of "tags_compile" = 1 := by
      intro i a hname
      simp [ToolRun.logged, Metrics.record, hname, Counts.of_count, Counts.of]
    rw [compileTool_of_compiled hvalid hcompile]
    exact hcount _ _ rfl

end TagSearch
