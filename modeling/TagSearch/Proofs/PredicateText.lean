import TagSearch.Predicate.Codec
import TagSearch.Proofs.JsonText

/-!
# A predicate comes back from its text

`predicate_text_loses_nothing`: the text of a predicate denotes that predicate, whatever its shape
and its ids, as long as the reader of JSON meets no limit of its own.

A set of ids has no order, so a record may list them in any; `IsRecord` relates a predicate to all
of its records, and `isRecord_toJson` says that the one it is written as is among them.  Reading and
writing count their own steps down the tree besides.  Those counts never decide anything: a record
stands two levels below the one around it, so that a text of 200 levels leads down 100 records,
and the reader takes two steps to each at most (`decodeAt_of_isRecord`, `writeSteps_le_of_isRecord`).
-/

namespace TagSearch

namespace Predicate

/-- The record of an overlap whose ids are listed so. -/
def leafRecord (ids : List Int) (mustOverlap : Bool) : Json :=
  .obj [("kind", .str "overlaps"), ("ids", .ints ids), ("must_overlap", .bool mustOverlap)]

/-- The record of a conjunction or a disjunction. -/
def nodeRecord (kind : String) (children : List Json) : Json :=
  .obj [("kind", .str kind), ("children", .arr children)]

/-- Whether a value is a record of a predicate, the ids of each overlap listed in any order. -/
inductive IsRecord : Json → Predicate → Prop
  | overlaps {order : List Int} {ids : IdSet} (hids : ∀ x, x ∈ order ↔ x ∈ ids.toList)
      (mustOverlap : Bool) : IsRecord (leafRecord order mustOverlap) (.overlaps ids mustOverlap)
  | all {parts : List (Json × Predicate)} (hparts : ∀ part ∈ parts, IsRecord part.1 part.2) :
      IsRecord (nodeRecord "and" (parts.map Prod.fst)) (.all (parts.map Prod.snd))
  | any {parts : List (Json × Predicate)} (hparts : ∀ part ∈ parts, IsRecord part.1 part.2) :
      IsRecord (nodeRecord "or" (parts.map Prod.fst)) (.any (parts.map Prod.snd))

/-- Predicates are written one by one. -/
theorem listToJson_eq_map (ps : List Predicate) : listToJson ps = ps.map toJson := by
  induction ps with
  | nil => rfl
  | cons p ps ih => rw [listToJson, ih, List.map_cons]

/-- Predicates go with their records, one by one. -/
theorem exists_parts {ps : List Predicate} (h : ∀ p ∈ ps, IsRecord p.toJson p) :
    ∃ parts : List (Json × Predicate), (∀ part ∈ parts, IsRecord part.1 part.2) ∧
      parts.map Prod.fst = listToJson ps ∧ parts.map Prod.snd = ps := by
  refine ⟨ps.map fun p => (p.toJson, p), ?_, ?_, ?_⟩
  · intro part hpart
    obtain ⟨p, hp, rfl⟩ := List.mem_map.mp hpart
    exact h p hp
  · simp [listToJson_eq_map]
  · simp [Function.comp_def]

/-- What a predicate is written as is a record of it. -/
theorem isRecord_toJson : ∀ p : Predicate, IsRecord p.toJson p
  | .overlaps ids mustOverlap => .overlaps (fun _ => Iff.rfl) mustOverlap
  | .all ps => by
      obtain ⟨parts, hparts, hrecords, hps⟩ := exists_parts fun p (_ : p ∈ ps) => isRecord_toJson p
      have hrecord := IsRecord.all hparts
      rw [hrecords, hps] at hrecord
      exact hrecord
  | .any ps => by
      obtain ⟨parts, hparts, hrecords, hps⟩ := exists_parts fun p (_ : p ∈ ps) => isRecord_toJson p
      have hrecord := IsRecord.any hparts
      rw [hrecords, hps] at hrecord
      exact hrecord

/-- The record of an overlap is plain. -/
theorem isPlain_leafRecord (ids : List Int) (mustOverlap : Bool) :
    (leafRecord ids mustOverlap).IsPlain := by
  have hids := Json.isPlain_ints ids
  apply Json.IsPlain.obj
  · simp
  · simp
  · simp [hids, Json.IsPlain.str, Json.IsPlain.bool]

/-- So is that of a node with plain children. -/
theorem isPlain_nodeRecord (kind : String) {children : List Json}
    (h : ∀ v ∈ children, v.IsPlain) : (nodeRecord kind children).IsPlain := by
  apply Json.IsPlain.obj
  · simp
  · simp
  · simp [Json.IsPlain.str, Json.IsPlain.arr h]

/-- Every record is plain. -/
theorem isPlain_of_isRecord {v : Json} {p : Predicate} (h : IsRecord v p) : v.IsPlain := by
  induction h with
  | overlaps hids mustOverlap => exact isPlain_leafRecord _ mustOverlap
  | all hparts ih | any hparts ih =>
      apply isPlain_nodeRecord
      intro v hv
      obtain ⟨part, hpart, rfl⟩ := List.mem_map.mp hv
      exact ih part hpart

/-- Within the limits of nesting, there is room for a record and for the ids in it, if there are any. -/
theorem limits_of_leafRecord {level : Nat} {ids : List Int} {mustOverlap : Bool}
    (h : (leafRecord ids mustOverlap).limitFault? .strict level = none) :
    level < 200 ∧ (ids = [] ∨ level + 1 < 200) := by
  obtain ⟨hrecord, hvalues⟩ := Json.limitFault?_obj_eq_none_iff.mp h
  obtain ⟨hids, -⟩ := Json.limitFault?_arr_eq_none_iff.mp (hvalues (.ints ids) (by simp))
  rw [List.isEmpty_map, Json.tooDeep_strict_eq_false_iff, List.isEmpty_iff] at hids
  exact ⟨(Json.tooDeep_strict_eq_false_iff.mp hrecord).resolve_left Bool.false_ne_true, hids⟩

/-- There is room for a node and, two levels further down, for its children. -/
theorem limits_of_nodeRecord {level : Nat} {kind : String} {children : List Json}
    (h : (nodeRecord kind children).limitFault? .strict level = none) :
    level < 200 ∧ ∀ v ∈ children, v.limitFault? .strict (level + 2) = none := by
  obtain ⟨hrecord, hvalues⟩ := Json.limitFault?_obj_eq_none_iff.mp h
  obtain ⟨-, hchildren⟩ := Json.limitFault?_arr_eq_none_iff.mp (hvalues (.arr children) (by simp))
  exact ⟨(Json.tooDeep_strict_eq_false_iff.mp hrecord).resolve_left Bool.false_ne_true, hchildren⟩

/-- A reader takes at most two steps to the fields of a record. -/
theorem enter_le (reader : Reader) (kind : String) : (reader.enter kind).1 ≤ 2 := by
  cases reader <;> unfold Reader.enter <;> grind

/-- Ids are read from a list of them in any order. -/
theorem decode_ints {order : List Int} {ids : IdSet} (hids : ∀ x, x ∈ order ↔ x ∈ ids.toList) :
    IdSet.decode (.ints order) = .accepted ids := by
  have hint : ∀ n : Int, Checked.integer (.int n) = .accepted n := fun _ => rfl
  have heach := Checked.each_map hint 0 order
  have hset : IdSet.ofList order = ids := by
    ext x
    rw [IdSet.mem_toList_ofList, hids]
  show Checked.map IdSet.ofList (.each .integer 0 (order.map .int)) = _
  rw [heach, Checked.map, hset]

/-- The fields of an overlap are read back. -/
theorem overlapFields_leafRecord {order : List Int} {ids : IdSet}
    (hids : ∀ x, x ∈ order ↔ x ∈ ids.toList) (mustOverlap : Bool) :
    overlapFields [("kind", .str "overlaps"), ("ids", .ints order),
      ("must_overlap", .bool mustOverlap)] = .accepted (.overlaps ids mustOverlap) := by
  apply Checked.seq_eq_accepted_iff.mpr
  refine ⟨overlaps ids, mustOverlap, ?_, ?_, rfl⟩
  · apply Checked.fmap_eq_accepted_iff.mpr
    exact ⟨ids, (Checked.defaulted_eq_accepted_iff rfl).mpr (decode_ints hids), rfl⟩
  · exact (Checked.defaulted_eq_accepted_iff rfl).mpr rfl

/-- An overlap is read back where two steps are left. -/
theorem decodeAt_leafRecord {reader : Reader} {steps : Nat} (hsteps : steps + 2 ≤ maxSteps)
    {order : List Int} {ids : IdSet} (hids : ∀ x, x ∈ order ↔ x ∈ ids.toList)
    (mustOverlap : Bool) :
    decodeAt reader steps (leafRecord order mustOverlap) =
      .accepted (.overlaps ids mustOverlap) := by
  have henter := enter_le reader "overlaps"
  have hroom : ¬ maxSteps < steps + (reader.enter "overlaps").1 := by omega
  have htag : tagOf kinds [("kind", .str "overlaps"), ("ids", .ints order),
      ("must_overlap", .bool mustOverlap)] = .ok "overlaps" := rfl
  rw [leafRecord, decodeAt, htag]
  show Checked.under _ (if maxSteps < steps + (reader.enter "overlaps").1 then _ else _) = _
  rw [if_neg hroom, Checked.under_eq_accepted_iff]
  exact overlapFields_leafRecord hids mustOverlap

/-- Children are read back if each of them is. -/
theorem decodeEach_parts {reader : Reader} {steps : Nat} {parts : List (Json × Predicate)}
    (h : ∀ part ∈ parts, decodeAt reader steps part.1 = .accepted part.2) (position : Nat) :
    decodeEach reader steps position (parts.map Prod.fst) = .accepted (parts.map Prod.snd) := by
  induction parts generalizing position with
  | nil => rfl
  | cons part parts ih =>
      obtain ⟨hpart, hparts⟩ := List.forall_mem_cons.mp h
      rw [List.map_cons, decodeEach, hpart, ih hparts]
      rfl

/-- A node is read back where two steps are left and its children are read back below. -/
theorem decodeAt_nodeRecord {reader : Reader} {steps : Nat} (hsteps : steps + 2 ≤ maxSteps)
    {kind : String} (hkind : kind = "and" ∨ kind = "or") {parts : List (Json × Predicate)}
    (hparts : ∀ below more, more ≤ 2 →
      ∀ part ∈ parts, decodeAt below (steps + more) part.1 = .accepted part.2) :
    decodeAt reader steps (nodeRecord kind (parts.map Prod.fst)) =
      .accepted ((if kind = "and" then all else any) (parts.map Prod.snd)) := by
  have henter := enter_le reader kind
  have hroom : ¬ maxSteps < steps + (reader.enter kind).1 := by omega
  have htag : tagOf kinds [("kind", .str kind), ("children", .arr (parts.map Prod.fst))] =
      .ok kind := by
    rcases hkind with rfl | rfl <;> rfl
  have hleaf : kind ≠ "overlaps" := by
    rcases hkind with rfl | rfl <;> decide
  have heach := decodeEach_parts (hparts (reader.enter kind).2 (reader.enter kind).1 henter) 0
  rw [nodeRecord, decodeAt, htag]
  show Checked.under _ (if maxSteps < steps + (reader.enter kind).1 then _
    else if kind = "overlaps" then _ else .map _ (decodeChildren (reader.enter kind).2
      (steps + (reader.enter kind).1) _)) = _
  rw [if_neg hroom, if_neg hleaf, Checked.under_eq_accepted_iff, Checked.map_eq_accepted_iff]
  refine ⟨parts.map Prod.snd, ?_, rfl⟩
  simp [decodeChildren, decodeTuple, heach]

/-- A record within the limits of a text is read.  The reader takes at most two steps to a record,
and a record stands two levels below the one around it, so the steps never exceed the level. -/
theorem decodeAt_of_isRecord {v : Json} {p : Predicate} (h : IsRecord v p) {reader : Reader}
    {steps level : Nat} (hsteps : steps ≤ level)
    (hlimit : v.limitFault? .strict level = none) : decodeAt reader steps v = .accepted p := by
  induction h generalizing reader steps level with
  | overlaps hids mustOverlap =>
      obtain ⟨hlevel, -⟩ := limits_of_leafRecord hlimit
      exact decodeAt_leafRecord (by unfold maxSteps; omega) hids mustOverlap
  | all hparts ih | any hparts ih =>
      obtain ⟨hlevel, hchildren⟩ := limits_of_nodeRecord hlimit
      apply decodeAt_nodeRecord (by unfold maxSteps; omega) (by simp)
      intro below more hmore part hpart
      exact ih part hpart (by omega) (hchildren part.1 (List.mem_map_of_mem hpart))

/-- Writing a list takes as many steps as its children at most. -/
theorem listWriteSteps_le {bound : Nat} {ps : List Predicate}
    (h : ∀ p ∈ ps, p.writeSteps ≤ bound) : listWriteSteps ps ≤ bound := by
  induction ps with
  | nil => exact Nat.zero_le bound
  | cons p ps ih =>
      obtain ⟨hp, hps⟩ := List.forall_mem_cons.mp h
      exact Nat.max_le.mpr ⟨hp, ih hps⟩

/-- A predicate whose record keeps to the limits of nesting is written in a bounded number of steps. -/
theorem writeSteps_le_of_isRecord {v : Json} {p : Predicate} (h : IsRecord v p) {level : Nat}
    (hlimit : v.limitFault? .strict level = none) : level + p.writeSteps ≤ 201 := by
  induction h generalizing level with
  | @overlaps order ids hids mustOverlap =>
      obtain ⟨hlevel, horder⟩ := limits_of_leafRecord hlimit
      rw [writeSteps]
      split
      · omega
      · rename_i hne
        have hempty : order ≠ [] := by
          rintro rfl
          apply hne
          rw [IdSet.isEmpty, List.isEmpty_iff, List.eq_nil_iff_forall_not_mem]
          exact fun x hx => List.not_mem_nil ((hids x).mpr hx)
        have hdeep := horder.resolve_left hempty
        omega
  | @all parts hparts ih | @any parts hparts ih =>
      obtain ⟨hlevel, hchildren⟩ := limits_of_nodeRecord hlimit
      have hbelow : listWriteSteps (parts.map Prod.snd) ≤ 201 - (level + 2) := by
        apply listWriteSteps_le
        intro p hp
        obtain ⟨part, hpart, rfl⟩ := List.mem_map.mp hp
        have hstep := ih part hpart (hchildren part.1 (List.mem_map_of_mem hpart))
        omega
      rw [writeSteps]
      omega

/-- What a reader takes can be written: the writer's limit lies beyond the reader's. -/
theorem isWritable_of_limits {p : Predicate} (h : p.toJson.limitFault? .strict 0 = none) :
    p.isWritable = true := by
  have hsteps := writeSteps_le_of_isRecord (isRecord_toJson p) h
  cases p with
  | overlaps ids mustOverlap => rfl
  | all ps | any ps =>
      rw [writeSteps] at hsteps
      exact decide_eq_true (by unfold maxSteps; omega)

/-- A predicate is read back from the text of its record exactly if the record keeps to the limits. -/
theorem ofText_compact_iff {v : Json} {p : Predicate} (h : IsRecord v p) :
    ofText v.compact = .ok p ↔ v.limitFault? .strict 0 = none := by
  rw [ofText, Checked.conclude_eq_ok_iff, Checked.ofText,
    Json.readText_compact .strict (isPlain_of_isRecord h)]
  constructor
  · intro haccepted
    cases hfault : v.limitFault? .strict 0 with
    | none => rfl
    | some fault =>
        rw [hfault] at haccepted
        cases haccepted
  · intro hlimit
    rw [hlimit]
    exact decodeAt_of_isRecord h (Nat.le_refl 0) hlimit

/-- **The text of a predicate loses nothing.**  Unless a limit of the reader stands in the way, every
predicate can be written and is read back equal, and so it is from every text that lists the ids of
its overlaps in another order. -/
theorem predicate_text_loses_nothing (p : Predicate) :
    (p.toJson.limitFault? .strict 0 = none ↔ ∃ text, p.write = .ok text ∧ ofText text = .ok p) ∧
      ∀ v, IsRecord v p → (v.limitFault? .strict 0 = none ↔ ofText v.compact = .ok p) := by
  have hback := ofText_compact_iff (isRecord_toJson p)
  refine ⟨⟨?_, ?_⟩, fun v hrecord => (ofText_compact_iff hrecord).symm⟩
  · intro hlimit
    refine ⟨p.toText, ?_, hback.mpr hlimit⟩
    rw [write, if_pos (isWritable_of_limits hlimit)]
  · rintro ⟨text, hwrite, hread⟩
    rw [write] at hwrite
    split at hwrite
    · cases hwrite
      exact hback.mp hread
    · cases hwrite

/-- A negative id, one of more than 64 bits, and a disjunction without children. -/
def mixedSample : Predicate :=
  .all [.overlaps ⟨[-7, 0, 10000000000000000000000], by decide⟩ false, .any []]

/-- The tree comes back from its own text, and from one with the ids in another order. -/
theorem mixedSample_comes_back :
    (∃ text, mixedSample.write = .ok text ∧ ofText text = .ok mixedSample) ∧
      ofText (nodeRecord "and"
        [leafRecord [10000000000000000000000, -7, 0] false, nodeRecord "or" []]).compact =
          .ok mixedSample := by
  obtain ⟨hown, hevery⟩ := predicate_text_loses_nothing mixedSample
  refine ⟨hown.mp (by decide), (hevery _ ?_).mp (by decide)⟩
  have hparts : ∀ part ∈
      [(leafRecord [10000000000000000000000, -7, 0] false,
        overlaps ⟨[-7, 0, 10000000000000000000000], by decide⟩ false), (nodeRecord "or" [], any [])],
      IsRecord part.1 part.2 := by
    intro part hpart
    rcases List.mem_cons.mp hpart with rfl | hpart
    · exact .overlaps (by grind) false
    · obtain rfl := List.mem_singleton.mp hpart
      exact .any (List.forall_mem_nil _)
  exact .all hparts

end Predicate

end TagSearch
