import TagSearch.Command.Run
import TagSearch.Proofs.CriteriaGates
import TagSearch.Proofs.JsonText

/-!
# Compiling and validating on the command line

The command that validates criteria prints a report; the one that compiles them validates them first and
stops with messages if they are refused.  A text that is read as JSON, or is found to be none, should
therefore come to one verdict: the one command prints a predicate exactly where the other reports that the
criteria are valid, and both end with code 2 everywhere else.

1.  Texts that are refused, and texts of criteria, come to one verdict (`Command.same_verdict`).  Behind
    the validator the compiler cannot fail on criteria, as `criteria_gates_agree` explains.
2.  Null is valid and stands for no criteria, but it has no elements that could be compiled
    (`Command.runCompile_of_null`).

So the two commands part on one value, and on no other: `compile_prints_iff_valid`.
-/

namespace TagSearch

/-- A text is JSON within the limits of the reader, or no JSON at all. -/
def Json.WithinLimits (text : String) : Prop :=
  ∀ e, Json.read text = .error e → ∃ s, e = .malformed s

/-- A predicate as it is printed. -/
def Predicate.printed (asText : Bool) (p : Predicate) : String :=
  if asText then p.describe else p.toJson.indented .unicode

namespace Outcome

/-- The end of a command that has printed a predicate. -/
def ShowsPredicate (asText : Bool) (o : Outcome) : Prop :=
  o.exit = 0 ∧ ∃ p : Predicate, o.stdout = p.printed asText ++ "\n"

/-- The end of a command that has printed a report, and whether the criteria are valid. -/
def ShowsReport (valid : Bool) (o : Outcome) : Prop :=
  o.exit = (if valid then 0 else 2) ∧
    ∃ r : Report, r.valid = valid ∧ o.stdout = r.toJson.indented .ascii ++ "\n"

/-- The end of a command that has printed nothing but messages about its arguments. -/
def Refuses (o : Outcome) : Prop := o.exit = 2 ∧ o.stdout = ""

variable {o : Outcome} {asText : Bool}

/-- No outcome says both that criteria are valid and that they are not. -/
theorem ShowsReport.not_false (h : o.ShowsReport true) : ¬o.ShowsReport false := by
  rintro ⟨hexit, -⟩
  exact absurd (h.1.symm.trans hexit) (by decide)

/-- An outcome with a predicate is no refusal. -/
theorem ShowsPredicate.not_refuses (h : o.ShowsPredicate asText) : ¬o.Refuses := by
  rintro ⟨hexit, -⟩
  exact absurd (h.1.symm.trans hexit) (by decide)

end Outcome

namespace Command

/-- The two commands come to one verdict: a valid report and a predicate, or code 2 twice. -/
def SameVerdict (asText : Bool) (validated compiled : Outcome) : Prop :=
  (validated.ShowsReport true ∧ compiled.ShowsPredicate asText) ∨
    (validated.ShowsReport false ∧ compiled.Refuses)

/-- A printed report says what it holds. -/
theorem printReport_shows (r : Report) : (printReport r).ShowsReport r.valid :=
  ⟨rfl, r, rfl, rfl⟩

variable {text : String} {tags : Json}

/-- For text that can be read, the report is on the criteria in it. -/
theorem runValidate_of_read (h : Json.read text = .ok tags) :
    ∃ o, runValidate text = .ok o ∧ o.ShowsReport (TagSearch.validate tags).isValid := by
  rw [runValidate_of_text h]
  exact ⟨_, rfl, printReport_shows (.ofVerdict (TagSearch.validate tags))⟩

/-- For text that is no JSON, the report says that it is invalid. -/
theorem runValidate_of_malformed {e : Json.SyntaxError} (h : Json.read text = .error (.malformed e)) :
    ∃ o, runValidate text = .ok o ∧ o.ShowsReport false := by
  rw [runValidate, h]
  exact ⟨_, rfl, printReport_shows _⟩

section

variable (asText : Bool)

/-- Text that is no JSON is refused. -/
theorem runCompile_of_malformed {e : Json.SyntaxError} (h : Json.read text = .error (.malformed e)) :
    ∃ o, runCompile text asText = .ok o ∧ o.Refuses := by
  rw [runCompile, parseTags, h]
  exact ⟨_, rfl, rfl, rfl⟩

/-- Criteria that are not valid are refused. -/
theorem runCompile_of_invalid (h : Json.read text = .ok tags)
    (hinvalid : (TagSearch.validate tags).isValid = false) :
    ∃ o, runCompile text asText = .ok o ∧ o.Refuses := by
  rw [runCompile, parseTags_of_read h, hinvalid]
  exact ⟨_, rfl, rfl, rfl⟩

/-- Criteria that were read are compiled, and their predicate is printed. -/
theorem runCompile_of_criteria {cs : List Criterion}
    (h : Json.read text = .ok (Criterion.listToJson cs)) :
    ∃ o, runCompile text asText = .ok o ∧ o.ShowsPredicate asText := by
  have hvalid : (TagSearch.validate (Criterion.listToJson cs)).isValid = true :=
    isValid_validate_iff.mpr (Or.inr ⟨cs, rfl⟩)
  have hfit : ∀ n ∈ (TagSearch.compile cs).numbers, fitsText n = true :=
    compile_numbersFit_iff.mpr (Json.numbersFit_of_read h)
  have htext : (TagSearch.compile cs).describeText = .ok (TagSearch.compile cs).describe :=
    ifFitting_eq_ok_iff.mpr ⟨hfit, rfl⟩
  rw [runCompile, parseTags_of_read h, hvalid]
  show ∃ o, settle ((compileJson (Criterion.listToJson cs)).mapError Stop.gaveUp >>= _) = .ok o ∧ _
  rw [compileJson_listToJson]
  cases asText with
  | false => exact ⟨_, rfl, rfl, TagSearch.compile cs, rfl⟩
  | true =>
      show ∃ o, settle ((TagSearch.compile cs).describeText.mapError Stop.gaveUp >>= _) = .ok o ∧ _
      rw [htext]
      exact ⟨_, rfl, rfl, TagSearch.compile cs, rfl⟩

/-- **Null is valid, but it is not compiled.** -/
theorem runCompile_of_null (h : Json.read text = .ok .null) :
    runCompile text asText = .error (.notIterable "NoneType") := by
  rw [runCompile, parseTags_of_read h]
  rfl

/-- **Any other text comes to one verdict.** -/
theorem same_verdict (hlimits : Json.WithinLimits text) (hnull : Json.read text ≠ .ok .null) :
    ∃ validated compiled, runValidate text = .ok validated ∧
      runCompile text asText = .ok compiled ∧ SameVerdict asText validated compiled := by
  cases hread : Json.read text with
  | error e =>
      obtain ⟨s, rfl⟩ := hlimits e hread
      obtain ⟨validated, hv, hreport⟩ := runValidate_of_malformed hread
      obtain ⟨compiled, hc, hrefuses⟩ := runCompile_of_malformed asText hread
      exact ⟨validated, compiled, hv, hc, Or.inr ⟨hreport, hrefuses⟩⟩
  | ok tags =>
      obtain ⟨validated, hv, hreport⟩ := runValidate_of_read hread
      cases hvalid : (TagSearch.validate tags).isValid with
      | false =>
          obtain ⟨compiled, hc, hrefuses⟩ := runCompile_of_invalid asText hread hvalid
          rw [hvalid] at hreport
          exact ⟨validated, compiled, hv, hc, Or.inr ⟨hreport, hrefuses⟩⟩
      | true =>
          rw [hvalid] at hreport
          rcases isValid_validate_iff.mp hvalid with rfl | ⟨cs, rfl⟩
          · exact absurd hread hnull
          · obtain ⟨compiled, hc, hshows⟩ := runCompile_of_criteria asText hread
            exact ⟨validated, compiled, hv, hc, Or.inl ⟨hreport, hshows⟩⟩

end

end Command

/-- **Compiling follows validating, except on null.**  Whatever a text is, as long as no limit of the reader
stands against it: validating prints a report.  Compiling prints a predicate exactly if the report says that
the criteria are valid and the text is not that of null; it ends with code 2 exactly if the report says that
they are not valid, and then both do; and it gives up exactly on null. -/
theorem compile_prints_iff_valid {text : String} (hlimits : Json.WithinLimits text) (asText : Bool) :
    ∃ validated, Command.runValidate text = .ok validated ∧
      (validated.ShowsReport true ∨ validated.ShowsReport false) ∧
      ((∃ o, Command.runCompile text asText = .ok o ∧ o.ShowsPredicate asText) ↔
        validated.ShowsReport true ∧ Json.read text ≠ .ok .null) ∧
      ((∃ o, Command.runCompile text asText = .ok o ∧ o.Refuses) ↔ validated.ShowsReport false) ∧
      ∀ f, Command.runCompile text asText = .error f ↔
        Json.read text = .ok .null ∧ f = .notIterable "NoneType" := by
  by_cases hnull : Json.read text = .ok .null
  · obtain ⟨validated, hv, hreport⟩ := Command.runValidate_of_read hnull
    have hfault := Command.runCompile_of_null asText hnull
    refine ⟨validated, hv, Or.inl hreport, ?_, ?_, ?_⟩
    · refine iff_of_false ?_ fun h => h.2 hnull
      rintro ⟨o, ho, -⟩
      cases hfault.symm.trans ho
    · refine iff_of_false ?_ hreport.not_false
      rintro ⟨o, ho, -⟩
      cases hfault.symm.trans ho
    · intro f
      rw [hfault, Except.error.injEq, and_iff_right hnull]
      exact eq_comm
  · obtain ⟨validated, compiled, hv, hc, hsame⟩ := Command.same_verdict asText hlimits hnull
    have hend : ∀ P : Outcome → Prop,
        (∃ o, Command.runCompile text asText = .ok o ∧ P o) ↔ P compiled := by
      intro P
      rw [hc]
      exact ⟨fun ⟨o, ho, h⟩ => Except.ok.inj ho ▸ h, fun h => ⟨compiled, rfl, h⟩⟩
    rw [hend, hend]
    refine ⟨validated, hv, ?_⟩
    have hfaultless : ∀ f, Command.runCompile text asText = .error f ↔
        Json.read text = .ok .null ∧ f = .notIterable "NoneType" := by
      intro f
      rw [hc]
      exact iff_of_false nofun fun h => hnull h.1
    rcases hsame with ⟨hreport, hshows⟩ | ⟨hreport, hrefuses⟩
    · exact ⟨Or.inl hreport, iff_of_true hshows ⟨hreport, hnull⟩,
        iff_of_false hshows.not_refuses hreport.not_false, hfaultless⟩
    · exact ⟨Or.inr hreport,
        iff_of_false (fun h => h.not_refuses hrefuses) fun h => h.1.not_false hreport,
        iff_of_true hrefuses hreport, hfaultless⟩

/-- Criteria as they are written can be read back. -/
theorem Criterion.isPlain_listToJson (cs : List Criterion) : (listToJson cs).IsPlain := by
  apply Json.IsPlain.arr
  intro v hv
  obtain ⟨c, -, rfl⟩ := List.mem_map.mp hv
  cases c with
  | tag n => exact .int n
  | group ids => exact Json.isPlain_ints ids

/-- A group with both signs is printed as compact text, and a text in place of an id is refused. -/
theorem compile_prints_mixed_group :
    let good := "[5,[3,-7]]"
    let bad := "[\"a\"]"
    Json.WithinLimits good ∧ Json.WithinLimits bad ∧
      (∃ o, Command.runCompile good true = .ok o ∧ o.ShowsPredicate true) ∧
      ∃ o, Command.runCompile bad true = .ok o ∧ o.Refuses := by
  intro good bad
  have hgoodText : (Criterion.listToJson [.tag 5, .group [3, -7]]).compact = good := by decide
  have hgood := Json.read_compact (Criterion.isPlain_listToJson [.tag 5, .group [3, -7]]) rfl
  rw [hgoodText] at hgood
  have hbadText : (Json.arr [.str "a"]).compact = bad := by decide
  have hbad := Json.read_compact (.arr (List.forall_mem_singleton.mpr (.str "a"))) rfl
  rw [hbadText] at hbad
  have hgoodLimits : Json.WithinLimits good := by
    intro e he
    cases hgood.symm.trans he
  have hbadLimits : Json.WithinLimits bad := by
    intro e he
    cases hbad.symm.trans he
  obtain ⟨validated, hv, -, hprinted, -, -⟩ := compile_prints_iff_valid hgoodLimits true
  obtain ⟨refused, hr, -, -, hrefused, -⟩ := compile_prints_iff_valid hbadLimits true
  have hvalid : validated.ShowsReport true := by
    obtain ⟨o, ho, hreport⟩ := Command.runValidate_of_read hgood
    exact Except.ok.inj (ho.symm.trans hv) ▸ hreport
  have hinvalid : refused.ShowsReport false := by
    obtain ⟨o, ho, hreport⟩ := Command.runValidate_of_read hbad
    exact Except.ok.inj (ho.symm.trans hr) ▸ hreport
  have hnotNull : Json.read good ≠ .ok .null := by
    intro h
    cases hgood.symm.trans h
  exact ⟨hgoodLimits, hbadLimits, hprinted.mpr ⟨hvalid, hnotNull⟩, hrefused.mpr hinvalid⟩

/-- **One text is valid and is not compiled.** -/
theorem null_valid_not_compiled :
    (∃ o, Command.runValidate "null" = .ok o ∧ o.ShowsReport true) ∧
      Command.runCompile "null" false = .error (.notIterable "NoneType") ∧
      Command.runCompile "null" true = .error (.notIterable "NoneType") := by
  have hread : Json.read "null" = .ok .null := rfl
  exact ⟨Command.runValidate_of_read hread, Command.runCompile_of_null false hread,
    Command.runCompile_of_null true hread⟩

end TagSearch
