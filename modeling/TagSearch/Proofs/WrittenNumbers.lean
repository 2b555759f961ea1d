import Mathlib.Algebra.Group.Int.Defs
import Mathlib.Algebra.Group.Nat.Defs
import TagSearch.Command.Run
import TagSearch.Proofs.CriteriaReading

/-!
# Numbers that are read can be written

A whole number with too many digits stops whatever writes it: a message that shows it, the compact text
of a predicate, the answer of a tool.  The reader of JSON has the same limit, so what was read never does
that (`numbersFit_of_read`); only values that a caller hands over as they are can.

1.  Reading keeps to the limit: a whole number is no longer than its digits were
    (`fitsText_digitsValue`), and lists and objects have no numbers but those of their parts
    (`readsFitting`).
2.  So does an id that is read from a value: it is a whole number in it, or one of at most 64 bits
    (`Item.fitsText_of_ofJson`).
3.  A report on criteria is given unless an entry that it shows holds a number that is too long, and valid
    criteria have no such entry (`report_of_isValid`, `report_of_numbersFit`).  So the command line, which
    reads its criteria, always has one (`Command.parseTags_of_read`, `Command.runValidate_of_text`).
4.  The ids in compiled criteria are the magnitudes of their signed ids (`mem_numbers_compile_iff`), so
    the one can be written exactly if the others can (`compile_numbersFit_iff`).
-/

namespace TagSearch

/-- A whole number can be written exactly below a power of ten. -/
theorem fitsText_iff {n : Int} : fitsText n = true ↔ n.natAbs < 10 ^ maxDigits := by
  rw [fitsText, decide_eq_true_iff]
  exact Nat.length_toDigits_le_iff (by decide) (by decide)

/-- Every number of 64 bits can be written. -/
theorem fitsText_of_natAbs_le {n : Int} (h : n.natAbs ≤ 9223372036854775808) :
    fitsText n = true := by
  have hdigits : 20 ≤ maxDigits := by decide
  have hpow : 10 ^ 20 ≤ 10 ^ maxDigits := Nat.pow_le_pow_right (by decide) hdigits
  have hsmall : 9223372036854775808 < 10 ^ 20 := by decide
  exact fitsText_iff.mpr (Nat.lt_of_le_of_lt h (Nat.lt_of_lt_of_le hsmall hpow))

/-- The first number with one digit too many. -/
theorem not_fitsText_pow : fitsText (10 ^ maxDigits) = false := by
  have hsize : ∀ k : Nat, (10 ^ k : Int).natAbs = 10 ^ k := Int.natAbs_pow 10
  rw [Bool.eq_false_iff, ne_eq, fitsText_iff, hsize]
  exact Nat.lt_irrefl _

namespace Json

/-- Every whole number in a value has few enough digits to be written. -/
def NumbersFit (v : Json) : Prop := ∀ n ∈ v.numbers, fitsText n = true

/-- The numbers in items are those of each. -/
theorem itemNumbers_eq_flatMap (items : List Json) : itemNumbers items = items.flatMap numbers := by
  induction items with
  | nil => rfl
  | cons item rest ih => rw [itemNumbers, ih, List.flatMap_cons]

/-- A number in items is one in some of them. -/
theorem mem_itemNumbers_iff {n : Int} {items : List Json} :
    n ∈ itemNumbers items ↔ ∃ v ∈ items, n ∈ v.numbers := by
  rw [itemNumbers_eq_flatMap, List.mem_flatMap]

/-- The numbers in a list of whole numbers. -/
theorem numbers_ints (ns : List Int) : (ints ns).numbers = ns := by
  rw [ints, numbers, itemNumbers_eq_flatMap, List.flatMap_map]
  exact List.flatMap_singleton' ns

/-- A number in members is one in the value of some of them. -/
theorem mem_memberNumbers_iff {n : Int} {members : Members} :
    n ∈ memberNumbers members ↔ ∃ m ∈ members, n ∈ m.2.numbers := by
  induction members with
  | nil => simp [memberNumbers]
  | cons member rest ih => simp [memberNumbers, ih]

/-- The numbers of a list fit if those of its items do. -/
theorem numbersFit_arr_iff {items : List Json} :
    (arr items).NumbersFit ↔ ∀ v ∈ items, v.NumbersFit := by
  simp only [NumbersFit, numbers, mem_itemNumbers_iff]
  constructor
  · intro h v hv n hn
    exact h n ⟨v, hv, hn⟩
  · rintro h n ⟨v, hv, hn⟩
    exact h v hv n hn

/-- The numbers of an object fit if those of its values do. -/
theorem numbersFit_obj_iff {members : Members} :
    (obj members).NumbersFit ↔ ∀ m ∈ members, m.2.NumbersFit := by
  simp only [NumbersFit, numbers, mem_memberNumbers_iff]
  constructor
  · intro h m hm n hn
    exact h n ⟨m, hm, hn⟩
  · rintro h n ⟨m, hm, hn⟩
    exact h m hm n hn

/-- A value without parts that is no whole number has none. -/
theorem numbersFit_of_numbers_eq_nil {v : Json} (h : v.numbers = []) : v.NumbersFit := by
  intro n hn
  rw [h] at hn
  cases hn

/-- Setting a member adds no numbers but those of its value. -/
theorem numbersFit_setMember {name : Text} {value : Json} {members : Members}
    (hvalue : value.NumbersFit) (h : ∀ m ∈ members, m.2.NumbersFit) :
    ∀ m ∈ setMember name value members, m.2.NumbersFit := by
  induction members with
  | nil => exact List.forall_mem_singleton.mpr hvalue
  | cons member rest ih =>
      obtain ⟨hfirst, hrest⟩ := List.forall_mem_cons.mp h
      rw [setMember]
      split
      · exact List.forall_mem_cons.mpr ⟨hvalue, hrest⟩
      · exact List.forall_mem_cons.mpr ⟨hfirst, ih hrest⟩

/-- Digits denote a number with no more digits than they are.  The induction is on the digits; what was
read of them is the number that the others are put behind. -/
theorem foldl_digits_lt {ds : List Char} (hds : ∀ c ∈ ds, isDigit c = true) (n : Nat) :
    ds.foldl (fun n c => 10 * n + (c.toNat - '0'.toNat)) n < (n + 1) * 10 ^ ds.length := by
  induction ds generalizing n with
  | nil => simp
  | cons c rest ih =>
      obtain ⟨hc, hrest⟩ := List.forall_mem_cons.mp hds
      have hdigit : c.toNat - '0'.toNat ≤ 9 := by
        rw [isDigit, Bool.and_eq_true, decide_eq_true_eq, decide_eq_true_eq] at hc
        have hle : c.toNat ≤ '9'.toNat := hc.2
        have hnine : '9'.toNat - '0'.toNat = 9 := rfl
        omega
      calc rest.foldl _ (10 * n + (c.toNat - '0'.toNat))
          < (10 * n + (c.toNat - '0'.toNat) + 1) * 10 ^ rest.length := ih hrest _
        _ ≤ (10 * (n + 1)) * 10 ^ rest.length := Nat.mul_le_mul_right _ (by omega)
        _ = (n + 1) * 10 ^ (c :: rest).length := by
            rw [List.length_cons, Nat.pow_succ, Nat.mul_comm 10 (n + 1), Nat.mul_assoc,
              Nat.mul_comm 10]

/-- **A number is no longer than the digits that it was read from.** -/
theorem fitsText_digitsValue {ds : List Char} (hds : ∀ c ∈ ds, isDigit c = true) (hne : ds ≠ [])
    (hlength : ds.length ≤ maxDigits) (negative : Bool) :
    fitsText (Binary64.signed negative (digitsValue ds)) = true := by
  have hsize : (Binary64.signed negative (digitsValue ds)).natAbs = digitsValue ds := by
    cases negative <;> simp [Binary64.signed]
  have hlt : digitsValue ds < 10 ^ ds.length := by
    have hfold := foldl_digits_lt hds 0
    rwa [Nat.zero_add, Nat.one_mul] at hfold
  have hdigits : (Nat.toDigits 10 (digitsValue ds)).length ≤ ds.length :=
    (Nat.length_toDigits_le_iff (by decide) (List.length_pos_iff.mpr hne)).mpr hlt
  rw [fitsText, hsize, decide_eq_true_iff]
  exact Nat.le_trans hdigits hlength

/-- The whole part of a number consists of digits, of one at least. -/
theorem of_wholePart? {cs ds rest : List Char} (h : wholePart? cs = some (ds, rest)) :
    (∀ c ∈ ds, isDigit c = true) ∧ ds ≠ [] := by
  unfold wholePart? at h
  split at h
  · obtain ⟨rfl, -⟩ := Prod.mk.inj (Option.some.inj h)
    exact ⟨List.forall_mem_singleton.mpr rfl, List.cons_ne_nil _ _⟩
  · rename_i c tail _
    split at h
    · rename_i hc
      obtain ⟨rfl, -⟩ := Prod.mk.inj (Option.some.inj h)
      refine ⟨fun d hd => List.all_eq_true.mp List.all_takeWhile d hd, ?_⟩
      rw [List.takeWhile_cons_of_pos hc]
      exact List.cons_ne_nil _ _
    · cases h
  · cases h

/-- A reader that admits so many digits of a whole number keeps to the limit. -/
theorem Dialect.le_maxDigits {d : Dialect} {negative : Bool} {digits : Nat}
    (h : d.admitsDigits negative true digits = true) : digits ≤ maxDigits := by
  cases d with
  | loose => simpa [admitsDigits] using h
  | strict =>
      rw [admitsDigits, decide_eq_true_iff] at h
      omega

/-- A number that is read keeps to the limit. -/
theorem numbersFit_of_readNumber {d : Dialect} {negative : Bool} {cs rest : List Char} {v : Json}
    (h : readNumber d negative cs = .ok (v, rest)) : v.NumbersFit := by
  unfold readNumber at h
  split at h
  · cases h
  · rename_i whole behind hwhole
    obtain ⟨hdigits, hne⟩ := of_wholePart? hwhole
    dsimp only at h
    split at h
    · split at h
      · rename_i hadmits
        obtain ⟨rfl, -⟩ := Prod.mk.inj (Except.ok.inj h)
        exact List.forall_mem_singleton.mpr
          (fitsText_digitsValue hdigits hne (Dialect.le_maxDigits hadmits) negative)
      · cases h
    · split at h
      · obtain ⟨rfl, -⟩ := Prod.mk.inj (Except.ok.inj h)
        exact numbersFit_of_numbers_eq_nil rfl
      · cases h

/-- No word stands for a whole number. -/
theorem numbersFit_of_word? {cs rest : List Char} {v : Json} (h : word? cs = some (v, rest)) :
    v.NumbersFit := by
  obtain ⟨w, hw, hfound⟩ := Option.map_eq_some_iff.mp h
  obtain ⟨rfl, -⟩ := Prod.mk.inj hfound
  have hwords : ∀ w ∈ words, w.2.numbers = [] := by decide
  exact numbersFit_of_numbers_eq_nil (hwords w (List.mem_of_find?_eq_some hw))

/-- A word or a number that is read keeps to the limit. -/
theorem numbersFit_of_readAtom {d : Dialect} {cs rest : List Char} {v : Json}
    (h : readAtom d cs = .ok (v, rest)) : v.NumbersFit := by
  unfold readAtom at h
  split at h
  · rename_i hword
    obtain rfl := Except.ok.inj h
    exact numbersFit_of_word? hword
  · exact numbersFit_of_readNumber h
  · exact numbersFit_of_readNumber h

/-- With so much fuel, a reader keeps to the limit in values, items and members. -/
structure ReadsFitting (d : Dialect) (fuel : Nat) : Prop where
  value {level : Nat} {cs rest : List Char} {v : Json} (h : readValue d level fuel cs = .ok (v, rest)) :
    v.NumbersFit
  items {level : Nat} {cs rest : List Char} {vs : List Json}
    (h : readItems d level fuel cs = .ok (vs, rest)) : ∀ v ∈ vs, v.NumbersFit
  members {level : Nat} {cs rest : List Char} {before ms : Members}
    (hbefore : ∀ m ∈ before, m.2.NumbersFit)
    (h : readMembers d level fuel before cs = .ok (ms, rest)) : ∀ m ∈ ms, m.2.NumbersFit

namespace ReadsFitting

variable {d : Dialect} {fuel : Nat}

/-- A value is an atom, or a list or an object with parts that were read with less fuel. -/
theorem value_succ (hd : ReadsFitting d fuel) {level : Nat} {cs rest : List Char} {v : Json}
    (h : readValue d level (fuel + 1) cs = .ok (v, rest)) : v.NumbersFit := by
  unfold readValue at h
  split at h
  · obtain ⟨⟨t, behind⟩, -, hmade⟩ := Scalar.of_bind_eq_ok h
    obtain ⟨rfl, -⟩ := Prod.mk.inj (Except.ok.inj hmade)
    exact numbersFit_of_numbers_eq_nil rfl
  · split at h
    · split at h
      · cases h
      · obtain ⟨rfl, -⟩ := Prod.mk.inj (Except.ok.inj h)
        exact numbersFit_of_numbers_eq_nil rfl
    · split at h
      · cases h
      · obtain ⟨⟨vs, behind⟩, hitems, hmade⟩ := Scalar.of_bind_eq_ok h
        obtain ⟨rfl, -⟩ := Prod.mk.inj (Except.ok.inj hmade)
        exact numbersFit_arr_iff.mpr (hd.items hitems)
  · split at h
    · split at h
      · cases h
      · obtain ⟨rfl, -⟩ := Prod.mk.inj (Except.ok.inj h)
        exact numbersFit_of_numbers_eq_nil rfl
    · split at h
      · cases h
      · obtain ⟨⟨ms, behind⟩, hmembers, hmade⟩ := Scalar.of_bind_eq_ok h
        obtain ⟨rfl, -⟩ := Prod.mk.inj (Except.ok.inj hmade)
        exact numbersFit_obj_iff.mpr (hd.members (List.forall_mem_nil _) hmembers)
  · exact numbersFit_of_readAtom h

/-- Items are one and those behind it. -/
theorem items_succ (hd : ReadsFitting d fuel) {level : Nat} {cs rest : List Char} {vs : List Json}
    (h : readItems d level (fuel + 1) cs = .ok (vs, rest)) : ∀ v ∈ vs, v.NumbersFit := by
  unfold readItems at h
  obtain ⟨⟨item, behind⟩, hitem, hmore⟩ := Scalar.of_bind_eq_ok h
  dsimp only at hmore
  split at hmore
  · obtain ⟨⟨later, last⟩, hlater, hmade⟩ := Scalar.of_bind_eq_ok hmore
    obtain ⟨rfl, -⟩ := Prod.mk.inj (Except.ok.inj hmade)
    exact List.forall_mem_cons.mpr ⟨hd.value hitem, hd.items hlater⟩
  · obtain ⟨rfl, -⟩ := Prod.mk.inj (Except.ok.inj hmore)
    exact List.forall_mem_singleton.mpr (hd.value hitem)
  · cases hmore

/-- Members are those before, one that is set among them, and those behind it. -/
theorem members_succ (hd : ReadsFitting d fuel) {level : Nat} {cs rest : List Char}
    {before ms : Members} (hbefore : ∀ m ∈ before, m.2.NumbersFit)
    (h : readMembers d level (fuel + 1) before cs = .ok (ms, rest)) : ∀ m ∈ ms, m.2.NumbersFit := by
  unfold readMembers at h
  split at h
  · obtain ⟨⟨name, behind⟩, -, hmore⟩ := Scalar.of_bind_eq_ok h
    dsimp only at hmore
    split at hmore
    · obtain ⟨⟨value, last⟩, hvalue, hset⟩ := Scalar.of_bind_eq_ok hmore
      have hmembers : ∀ m ∈ setMember name value before, m.2.NumbersFit :=
        numbersFit_setMember (hd.value hvalue) hbefore
      dsimp only at hset
      split at hset
      · exact hd.members hmembers hset
      · obtain ⟨rfl, -⟩ := Prod.mk.inj (Except.ok.inj hset)
        exact hmembers
      · cases hset
    · cases hmore
  · cases h

end ReadsFitting

/-- **A reader keeps to the limit** in all that it reads.  The induction is on its fuel. -/
theorem readsFitting (d : Dialect) (fuel : Nat) : ReadsFitting d fuel := by
  induction fuel with
  | zero =>
      constructor
      · intro level cs rest v h
        cases h
      · intro level cs rest vs h
        cases h
      · intro level cs rest before ms _ h
        cases h
  | succ fuel ih => exact ⟨ih.value_succ, ih.items_succ, ih.members_succ⟩

/-- **What was read can be written.** -/
theorem numbersFit_of_readText {d : Dialect} {text : List Char} {v : Json}
    (h : readText d text = .ok v) : v.NumbersFit := by
  unfold readText at h
  split at h
  · cases h
  · obtain ⟨⟨value, behind⟩, hvalue, hend⟩ := Scalar.of_bind_eq_ok h
    dsimp only at hend
    split at hend
    · obtain rfl := Except.ok.inj hend
      exact (readsFitting d _).value hvalue
    · cases hend

/-- The same for a text as files and arguments have it. -/
theorem numbersFit_of_read {text : String} {v : Json} (h : read text = .ok v) : v.NumbersFit := by
  cases hread : readText .loose text.toList with
  | error f =>
      rw [read, readChars, hread] at h
      cases h
  | ok value =>
      rw [read, readChars, hread] at h
      obtain rfl := Except.ok.inj h
      exact numbersFit_of_readText hread

end Json

/-- An id keeps to the limit if the value it is read from does. -/
theorem ItemId.fitsText_of_decode {v : Json} {n : Int} (hv : v.NumbersFit)
    (h : decode v = .accepted (.number n)) : fitsText n = true := by
  cases v with
  | int m =>
      obtain rfl := ItemId.number.inj (Checked.accepted.inj h)
      exact hv _ List.mem_cons_self
  | bool b =>
      obtain rfl := ItemId.number.inj (Checked.accepted.inj h)
      exact fitsText_of_natAbs_le (by cases b <;> decide)
  | float x =>
      rw [decode] at h
      · split at h
        · rename_i m hm
          obtain rfl := ItemId.number.inj (Checked.accepted.inj h)
          exact fitsText_of_natAbs_le (Scalar.natAbs_le_of_integer_float hm)
        · cases h
      · intro t ht
        cases ht
  | null => cases h
  | str t => cases h
  | arr vs => cases h
  | obj ms => cases h

/-- **An id that was read with its item can be written.** -/
theorem Item.fitsText_of_ofJson {v : Json} {item : Item} {n : Int} (hv : v.NumbersFit)
    (h : ofJson v = .ok item) (hid : item.id = .number n) : fitsText n = true := by
  obtain ⟨members, rfl, hfields⟩ := Checked.of_record_eq_accepted (Checked.conclude_eq_ok_iff.mp h)
  obtain ⟨_, tags, htwo, -, rfl⟩ := Checked.seq_eq_accepted_iff.mp hfields
  obtain ⟨_, title, hone, -, rfl⟩ := Checked.seq_eq_accepted_iff.mp htwo
  obtain ⟨id, hrequired, rfl⟩ := Checked.fmap_eq_accepted_iff.mp hone
  obtain ⟨value, hlookup, hread⟩ := Checked.of_required_eq_accepted hrequired
  have hvalue : value.NumbersFit := Json.numbersFit_obj_iff.mp hv _ (Json.mem_of_lookup hlookup)
  obtain rfl : id = .number n := hid
  exact ItemId.fitsText_of_decode hvalue hread

section

variable {v : Json} {n : Int} {e : CriteriaError}

/-- An error about a group shows numbers of the group. -/
theorem mem_numbers_of_validateGroup {i : Nat} {entries : List Json}
    (he : e ∈ (validateGroup i entries).errors) (hn : n ∈ e.numbers) :
    n ∈ (Json.arr entries).numbers := by
  unfold validateGroup at he
  split at he
  · cases he
  · split at he
    · cases he
    · obtain rfl := List.mem_singleton.mp he
      obtain ⟨entry, hentry, hmem⟩ := Json.mem_itemNumbers_iff.mp hn
      exact Json.mem_itemNumbers_iff.mpr ⟨entry, (List.mem_filter.mp hentry).1, hmem⟩

/-- An error about a criterion shows numbers of the criterion. -/
theorem mem_numbers_of_validateCriterion {i : Nat} (he : e ∈ (validateCriterion i v).errors)
    (hn : n ∈ e.numbers) : n ∈ v.numbers := by
  cases v with
  | int m => cases he
  | arr entries => exact mem_numbers_of_validateGroup he hn
  | _ =>
      obtain rfl := List.mem_singleton.mp he
      cases hn

/-- An error about one of several criteria shows numbers of one of them. -/
theorem mem_numbers_of_validateFrom {i : Nat} {vs : List Json} (he : e ∈ (validateFrom i vs).errors)
    (hn : n ∈ e.numbers) : n ∈ (Json.arr vs).numbers := by
  induction vs generalizing i with
  | nil => cases he
  | cons v rest ih =>
      rcases List.mem_append.mp he with hfirst | hrest
      · exact List.mem_append.mpr (Or.inl (mem_numbers_of_validateCriterion hfirst hn))
      · exact List.mem_append.mpr (Or.inr (ih hrest))

/-- **An error shows no numbers but those of the criteria.** -/
theorem mem_numbers_of_validate (he : e ∈ (validate v).errors) (hn : n ∈ e.numbers) :
    n ∈ v.numbers := by
  cases v with
  | null => cases he
  | arr criteria => exact mem_numbers_of_validateFrom he hn
  | _ =>
      obtain rfl := List.mem_singleton.mp he
      cases hn

/-- The report on a verdict is given with all it says, or not at all. -/
theorem Verdict.report_eq_ok_iff {verdict : Verdict} {r : Report} :
    verdict.report = .ok r ↔
      (∀ e ∈ verdict.errors, ∀ n ∈ e.numbers, fitsText n = true) ∧ .ofVerdict verdict = r := by
  rw [report, ifFitting_eq_ok_iff, List.forall_mem_flatMap]

/-- **Valid criteria get their report**, however long their ids are. -/
theorem report_of_isValid (h : (validate v).isValid = true) :
    (validate v).report = .ok (.ofVerdict (validate v)) := by
  have hnone : (validate v).errors = [] := List.isEmpty_iff.mp h
  rw [Verdict.report_eq_ok_iff, hnone]
  exact ⟨List.forall_mem_nil _, rfl⟩

/-- **Criteria that were read get their report.** -/
theorem report_of_numbersFit (h : v.NumbersFit) :
    (validate v).report = .ok (.ofVerdict (validate v)) :=
  Verdict.report_eq_ok_iff.mpr ⟨fun _ he _ hn => h _ (mem_numbers_of_validate he hn), rfl⟩

end

namespace Command

variable {text : String} {tags : Json}

/-- **Criteria on the command line** are taken or refused by their verdict alone. -/
theorem parseTags_of_read (h : Json.read text = .ok tags) :
    parseTags text =
      if (TagSearch.validate tags).isValid then .ok (tags, .ofVerdict (TagSearch.validate tags))
      else .error (.ended ((Outcome.failed 2 ((TagSearch.validate tags).errors.map (·.message))).after
        (warningLines (.ofVerdict (TagSearch.validate tags))))) := by
  simp only [parseTags, h, report_of_numbersFit (Json.numbersFit_of_read h)]
  rfl

/-- A report is printed on all criteria that were read. -/
theorem runValidate_of_text (h : Json.read text = .ok tags) :
    runValidate text = .ok (printReport (.ofVerdict (TagSearch.validate tags))) := by
  simp only [runValidate, h, report_of_numbersFit (Json.numbersFit_of_read h)]
  rfl

end Command

namespace Predicate

/-- The ids in an overlap. -/
theorem numbers_overlaps (ids : IdSet) (mustOverlap : Bool) :
    (overlaps ids mustOverlap).numbers = ids.toList := by
  simp [numbers, toJson, IdSet.toJson, Json.numbers, Json.memberNumbers, Json.numbers_ints]

/-- The ids in a list of children are those of each. -/
theorem itemNumbers_listToJson (ps : List Predicate) :
    Json.itemNumbers (listToJson ps) = ps.flatMap numbers := by
  induction ps with
  | nil => rfl
  | cons p rest ih => rw [listToJson, Json.itemNumbers, ih, List.flatMap_cons, numbers]

/-- The ids in a conjunction. -/
theorem numbers_all (ps : List Predicate) : (all ps).numbers = ps.flatMap numbers := by
  simp [numbers, toJson, Json.numbers, Json.memberNumbers, itemNumbers_listToJson]

/-- The ids in a disjunction. -/
theorem numbers_any (ps : List Predicate) : (any ps).numbers = ps.flatMap numbers := by
  simp [numbers, toJson, Json.numbers, Json.memberNumbers, itemNumbers_listToJson]

end Predicate

/-- The predicate of a clause has the ids of both its sets. -/
theorem Clause.mem_numbers_predicate_iff {c : Clause} {n : Int} :
    n ∈ c.predicate.numbers ↔ n ∈ c.mustHave.toList ∨ n ∈ c.mustNot.toList := by
  unfold predicate shape
  cases hhave : c.mustHave.isEmpty with
  | true => simp [Predicate.numbers_overlaps, IdSet.isEmpty_iff.mp hhave]
  | false =>
      cases hnot : c.mustNot.isEmpty with
      | true => simp [Predicate.numbers_overlaps, IdSet.isEmpty_iff.mp hnot]
      | false => simp [Predicate.numbers_any, Predicate.numbers_overlaps]

/-- The predicate of a criterion has the magnitudes of its signed ids. -/
theorem Criterion.mem_numbers_predicate_iff {c : Criterion} {n : Int} :
    n ∈ c.predicate.numbers ↔ ∃ id ∈ c.signedIds, n = id.natAbs := by
  rw [predicate, Clause.mem_numbers_predicate_iff, mem_mustHave_iff, mem_mustNot_iff]
  constructor
  · rintro (⟨hmem, hn⟩ | ⟨hmem, hn⟩)
    · exact ⟨n, hmem, by omega⟩
    · exact ⟨-n, hmem, by omega⟩
  · rintro ⟨id, hid, rfl⟩
    by_cases hsign : 0 ≤ id
    · have hsame : (id.natAbs : Int) = id := Int.natAbs_of_nonneg hsign
      exact Or.inl ⟨hsame.symm ▸ hid, by omega⟩
    · have hsame : -(id.natAbs : Int) = id := by omega
      exact Or.inr ⟨hsame.symm ▸ hid, by omega⟩

/-- **The ids in compiled criteria** are the magnitudes of the signed ids. -/
theorem mem_numbers_compile_iff {cs : List Criterion} {n : Int} :
    n ∈ (compile cs).numbers ↔ ∃ c ∈ cs, ∃ id ∈ c.signedIds, n = id.natAbs := by
  rw [compile, Predicate.numbers_all, List.flatMap_map, List.mem_flatMap]
  simp only [Criterion.mem_numbers_predicate_iff]

/-- The numbers in criteria as they are written are their signed ids. -/
theorem Criterion.mem_numbers_listToJson_iff {cs : List Criterion} {n : Int} :
    n ∈ (listToJson cs).numbers ↔ ∃ c ∈ cs, n ∈ c.signedIds := by
  have hone : ∀ c : Criterion, n ∈ c.toJson.numbers ↔ n ∈ c.signedIds := by
    intro c
    cases c with
    | tag id => exact Iff.rfl
    | group ids => rw [toJson, Json.numbers_ints, signedIds]
  rw [listToJson, Json.numbers, Json.itemNumbers_eq_flatMap, List.flatMap_map, List.mem_flatMap]
  simp only [hone]

/-- **Compiled criteria can be written exactly if the criteria can.** -/
theorem compile_numbersFit_iff {cs : List Criterion} :
    (∀ n ∈ (compile cs).numbers, fitsText n = true) ↔ (Criterion.listToJson cs).NumbersFit := by
  simp only [Json.NumbersFit, Criterion.mem_numbers_listToJson_iff, mem_numbers_compile_iff]
  constructor
  · rintro h n ⟨c, hc, hn⟩
    rw [← fitsText_natAbs]
    exact h _ ⟨c, hc, n, hn, rfl⟩
  · rintro h _ ⟨c, hc, id, hid, rfl⟩
    rw [fitsText_natAbs]
    exact h id ⟨c, hc, hid⟩

end TagSearch
