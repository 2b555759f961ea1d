import TagSearch.Proofs.JsonScalars

/-!
# Values come back from their texts

`readText_write`: what a printer writes of a plain value is read as that value, in every layout that
puts nothing but blanks between the parts, unless a limit of the reader stands in the way.  Which
limit that is depends on the value alone: `limitFault?` is the first one that a reader meets.

The reader runs on fuel and leaves what stands behind a value, so the statement that is proved by
induction, `ReadsBack`, is about every text that starts with the value's own and about every amount
of fuel from `fuelFor` on.  The lemmas before it tell what one step of the reader does with a list or
an object whose parts are known to be read.
-/

namespace TagSearch

namespace Json

/-- All that a layout puts between the parts of a value is blank. -/
structure Layout.IsBlank (l : Layout) : Prop where
  beforeItem : ∀ level, ∀ c ∈ l.beforeItem level, isBlank c = true
  afterComma : ∀ level, ∀ c ∈ l.afterComma level, isBlank c = true
  afterLast : ∀ level, ∀ c ∈ l.afterLast level, isBlank c = true
  afterColon : ∀ c ∈ l.afterColon, isBlank c = true

/-- Values that a text can denote exactly: without floating-point numbers, which are rounded, with
texts that are strings, and with different names in every object. -/
inductive IsPlain : Json → Prop
  | null : IsPlain .null
  | bool (b : Bool) : IsPlain (.bool b)
  | int (n : Int) : IsPlain (.int n)
  | str (s : String) : IsPlain (.str s)
  | arr {items : List Json} (hitems : ∀ item ∈ items, IsPlain item) : IsPlain (.arr items)
  | obj {members : Members} (hdistinct : (members.map Prod.fst).Nodup)
      (hnames : ∀ name ∈ members.map Prod.fst, ∃ s : String, name = s)
      (hvalues : ∀ value ∈ members.map Prod.snd, IsPlain value) : IsPlain (.obj members)

/-- A list of whole numbers is plain. -/
theorem isPlain_ints (ns : List Int) : (ints ns).IsPlain := by
  apply IsPlain.arr
  intro v hv
  obtain ⟨n, -, rfl⟩ := List.mem_map.mp hv
  exact .int n

mutual

/-- The first limit that a reader meets in a value at a level of nesting. -/
def limitFault? (d : Dialect) (level : Nat) : Json → Option ReadFault
  | .int n => intFault? d n
  | .arr items =>
    if d.tooDeep level items.isEmpty then some .tooDeep else itemsLimitFault? d (level + 1) items
  | .obj members =>
    if d.tooDeep level members.isEmpty then some .tooDeep
    else membersLimitFault? d (level + 1) members
  | _ => none

/-- The first limit in items. -/
def itemsLimitFault? (d : Dialect) (level : Nat) : List Json → Option ReadFault
  | [] => none
  | item :: rest => (item.limitFault? d level).or (itemsLimitFault? d level rest)

/-- The first limit in members. -/
def membersLimitFault? (d : Dialect) (level : Nat) : Members → Option ReadFault
  | [] => none
  | (_, value) :: rest => (value.limitFault? d level).or (membersLimitFault? d level rest)

end

/-- A strict reader goes down 200 levels, and further only for what is empty. -/
theorem tooDeep_strict_eq_false_iff {level : Nat} {isEmpty : Bool} :
    Dialect.strict.tooDeep level isEmpty = false ↔ isEmpty = true ∨ level < 200 := by
  cases isEmpty <;> simp [Dialect.tooDeep]

/-- Items are within the limits if each of them is. -/
theorem itemsLimitFault?_eq_none_iff {d : Dialect} {level : Nat} {items : List Json} :
    itemsLimitFault? d level items = none ↔ ∀ v ∈ items, v.limitFault? d level = none := by
  induction items with
  | nil => simp [itemsLimitFault?]
  | cons item items ih => simp [itemsLimitFault?, ih]

/-- So are members if their values are. -/
theorem membersLimitFault?_eq_none_iff {d : Dialect} {level : Nat} {members : Members} :
    membersLimitFault? d level members = none ↔
      ∀ v ∈ members.map Prod.snd, v.limitFault? d level = none := by
  induction members with
  | nil => simp [membersLimitFault?]
  | cons member members ih => simp [membersLimitFault?, ih]

/-- A list is within the limits if it is not too deep and its items are within them. -/
theorem limitFault?_arr_eq_none_iff {d : Dialect} {level : Nat} {items : List Json} :
    (arr items).limitFault? d level = none ↔
      d.tooDeep level items.isEmpty = false ∧
        ∀ v ∈ items, v.limitFault? d (level + 1) = none := by
  cases hdepth : d.tooDeep level items.isEmpty <;>
    simp [limitFault?, hdepth, itemsLimitFault?_eq_none_iff]

/-- So is an object, with the values of its members. -/
theorem limitFault?_obj_eq_none_iff {d : Dialect} {level : Nat} {members : Members} :
    (obj members).limitFault? d level = none ↔
      d.tooDeep level members.isEmpty = false ∧
        ∀ v ∈ members.map Prod.snd, v.limitFault? d (level + 1) = none := by
  cases hdepth : d.tooDeep level members.isEmpty <;>
    simp [limitFault?, hdepth, membersLimitFault?_eq_none_iff]

/-- A character that a value may start with, as blanks, closing brackets and the byte order mark may
not. -/
def StartsValue (c : Char) : Prop := isBlank c = false ∧ c ≠ ']' ∧ c ≠ '}' ∧ c ≠ '\ufeff'

instance (c : Char) : Decidable (StartsValue c) := inferInstanceAs (Decidable (_ ∧ _))

/-- A value may start with a digit. -/
theorem startsValue_of_isDigit {c : Char} (h : isDigit c = true) : StartsValue c := by
  have hne : ∀ w, isDigit w = false → c ≠ w := fun _ hw => ne_of_isDigit h hw
  refine ⟨?_, hne ']' rfl, hne '}' rfl, hne '\ufeff' rfl⟩
  simp [isBlank, hne ' ' rfl, hne '\t' rfl, hne '\n' rfl, hne '\r' rfl]

/-- The text of a plain value starts as a value may. -/
theorem write_eq_cons (l : Layout) (level : Nat) {v : Json} (hv : v.IsPlain) :
    ∃ c cs, write l level v = c :: cs ∧ StartsValue c := by
  cases hv with
  | null => exact ⟨'n', _, rfl, by decide⟩
  | bool b => cases b <;> exact ⟨_, _, rfl, by decide⟩
  | int n =>
      cases n with
      | ofNat n =>
          obtain ⟨c, cs, hdigits, hdigit, -⟩ := toDigits_eq_cons n
          exact ⟨c, cs, hdigits, startsValue_of_isDigit hdigit⟩
      | negSucc n => exact ⟨'-', _, rfl, by decide⟩
  | str s => exact ⟨'"', _, rfl, by decide⟩
  | @arr items _ => cases items <;> exact ⟨'[', _, rfl, by decide⟩
  | @obj members _ _ _ => rcases members with _ | ⟨⟨name, value⟩, members⟩ <;>
      exact ⟨'{', _, rfl, by decide⟩

/-- Blanks are skipped up to the first character that is none. -/
theorem skipBlanks_append {blanks : List Char} (h : ∀ c ∈ blanks, isBlank c = true) {c : Char}
    (hc : isBlank c = false) (cs : List Char) : skipBlanks (blanks ++ c :: cs) = c :: cs := by
  rw [skipBlanks, List.dropWhile_append_of_pos h, List.dropWhile_cons_of_neg (by simp [hc])]

/-- So they are skipped up to a value. -/
theorem skipBlanks_append_write {l : Layout} {blanks : List Char}
    (h : ∀ c ∈ blanks, isBlank c = true) (level : Nat) {v : Json} (hv : v.IsPlain)
    (rest : List Char) :
    skipBlanks (blanks ++ (write l level v ++ rest)) = write l level v ++ rest := by
  obtain ⟨c, cs, hwrite, hblank, -⟩ := write_eq_cons l level hv
  rw [hwrite, List.cons_append]
  exact skipBlanks_append h hblank (cs ++ rest)

/-- A number ends before blanks, too. -/
theorem endsNumber_append {blanks : List Char} (h : ∀ c ∈ blanks, isBlank c = true)
    {cs : List Char} (hcs : EndsNumber cs) : EndsNumber (blanks ++ cs) := by
  cases blanks with
  | nil => exact hcs
  | cons c blanks =>
      have hblank := h c List.mem_cons_self
      have hne : ∀ w, isBlank w = false → c ≠ w := by
        rintro w hw rfl
        exact Bool.false_ne_true (hw.symm.trans hblank)
      refine ⟨?_, hne '.' rfl, hne 'e' rfl, hne 'E' rfl⟩
      simp only [isBlank, Bool.or_eq_true, beq_iff_eq] at hblank
      rcases hblank with ((rfl | rfl) | rfl) | rfl <;> rfl

/-- A member with a new name is put behind the others. -/
theorem setMember_of_nodup {before members : Members} {name : Text} {value : Json}
    (h : ((before ++ (name, value) :: members).map Prod.fst).Nodup) :
    setMember name value before = before ++ [(name, value)] := by
  induction before with
  | nil => rfl
  | cons member before ih =>
      obtain ⟨hnew, hrest⟩ := List.nodup_cons.mp h
      have hne : member.1 ≠ name := by
        intro heq
        apply hnew
        simp [heq]
      rw [setMember, if_neg hne, ih hrest, List.cons_append]

variable {d : Dialect} {level fuel : Nat}

/-- Behind its bracket a list is read item by item, one level further down. -/
theorem readValue_arr {blanks cs rest : List Char} {c : Char} {items : List Json}
    {fault : Option ReadFault} (h : ∀ c ∈ blanks, isBlank c = true) (hc : StartsValue c)
    (hitems : readItems d (level + 1) fuel (c :: cs) = unlessFault fault (items, rest)) :
    readValue d level (fuel + 1) ('[' :: (blanks ++ c :: cs)) =
      unlessFault (if d.tooDeep level false then some .tooDeep else fault) (.arr items, rest) := by
  obtain ⟨hblank, hclose, -⟩ := hc
  rw [readValue, skipBlanks_append h hblank]
  split
  · rename_i heq
    cases heq
    exact absurd rfl hclose
  · split
    · rfl
    · rw [hitems]
      cases fault <;> rfl

/-- An object is read member by member, likewise. -/
theorem readValue_obj {blanks cs rest : List Char} {c : Char} {members : Members}
    {fault : Option ReadFault} (h : ∀ c ∈ blanks, isBlank c = true) (hc : StartsValue c)
    (hmembers : readMembers d (level + 1) fuel [] (c :: cs) = unlessFault fault (members, rest)) :
    readValue d level (fuel + 1) ('{' :: (blanks ++ c :: cs)) =
      unlessFault (if d.tooDeep level false then some .tooDeep else fault) (.obj members, rest) := by
  obtain ⟨hblank, -, hclose, -⟩ := hc
  rw [readValue, skipBlanks_append h hblank]
  split
  · rename_i heq
    cases heq
    exact absurd rfl hclose
  · split
    · rfl
    · rw [hmembers]
      cases fault <;> rfl

/-- An item before the closing bracket is the last one. -/
theorem readItems_last {cs rest more : List Char} {item : Json} {fault : Option ReadFault}
    (hitem : readValue d level fuel cs = unlessFault fault (item, rest))
    (hclose : skipBlanks rest = ']' :: more) :
    readItems d level (fuel + 1) cs = unlessFault fault ([item], more) := by
  rw [readItems, hitem]
  cases fault with
  | none => simp only [unlessFault, bind, Except.bind, hclose]; rfl
  | some f => rfl

/-- An item before a comma is followed by others; the first fault of all counts. -/
theorem readItems_comma {cs rest more after : List Char} {item : Json} {items : List Json}
    {fault faults : Option ReadFault}
    (hitem : readValue d level fuel cs = unlessFault fault (item, rest))
    (hcomma : skipBlanks rest = ',' :: more)
    (hitems : readItems d level fuel (skipBlanks more) = unlessFault faults (items, after)) :
    readItems d level (fuel + 1) cs = unlessFault (fault.or faults) (item :: items, after) := by
  rw [readItems, hitem]
  cases fault with
  | none =>
      simp only [unlessFault, bind, Except.bind, hcomma, hitems]
      cases faults <;> rfl
  | some f => rfl

/-- A member before the closing brace is the last one. -/
theorem readMembers_last {cs more rest after : List Char} {name : Text} {value : Json}
    {before : Members} {fault : Option ReadFault}
    (hname : readString d fuel cs = .ok (name, ':' :: more))
    (hvalue : readValue d level fuel (skipBlanks more) = unlessFault fault (value, rest))
    (hclose : skipBlanks rest = '}' :: after) :
    readMembers d level (fuel + 1) before ('"' :: cs) =
      unlessFault fault (setMember name value before, after) := by
  have hcolon : skipBlanks (':' :: more) = ':' :: more := rfl
  rw [readMembers, hname]
  simp only [bind, Except.bind, hcolon, hvalue]
  cases fault with
  | none => simp only [unlessFault, hclose]; rfl
  | some f => rfl

/-- A member before a comma is followed by others, likewise. -/
theorem readMembers_comma {cs more rest next after : List Char} {name : Text} {value : Json}
    {before members : Members} {fault faults : Option ReadFault}
    (hname : readString d fuel cs = .ok (name, ':' :: more))
    (hvalue : readValue d level fuel (skipBlanks more) = unlessFault fault (value, rest))
    (hcomma : skipBlanks rest = ',' :: next)
    (hmembers : readMembers d level fuel (setMember name value before) (skipBlanks next) =
      unlessFault faults (members, after)) :
    readMembers d level (fuel + 1) before ('"' :: cs) =
      unlessFault (fault.or faults) (members, after) := by
  have hcolon : skipBlanks (':' :: more) = ':' :: more := rfl
  rw [readMembers, hname]
  simp only [bind, Except.bind, hcolon, hvalue]
  cases fault with
  | none => simp only [unlessFault, hcomma, hmembers]; rfl
  | some f => rfl

/-- Whether a value comes back from its text, whatever stands behind it.  The fuel is that of
`fuelFor`. -/
def ReadsBack (d : Dialect) (l : Layout) (v : Json) : Prop :=
  ∀ {level fuel : Nat} {rest : List Char}, EndsNumber rest →
    2 * (write l level v ++ rest).length + 1 ≤ fuel →
    readValue d level (fuel + 1) (write l level v ++ rest) =
      unlessFault (v.limitFault? d level) (v, rest)

variable {l : Layout} {tail more : List Char}

/-- A number ends before the items that follow it. -/
theorem endsNumber_writeItems (l : Layout) (level : Nat) (items : List Json)
    (hend : EndsNumber tail) : EndsNumber (writeItems l level items ++ tail) := by
  cases items with
  | nil => exact hend
  | cons item items => exact ⟨rfl, by decide, by decide, by decide⟩

/-- And before the members that follow it. -/
theorem endsNumber_writeMembers (l : Layout) (level : Nat) (members : Members)
    (hend : EndsNumber tail) : EndsNumber (writeMembers l level members ++ tail) := by
  cases members with
  | nil => exact hend
  | cons member members => exact ⟨rfl, by decide, by decide, by decide⟩

/-- The items of a list come back if each of them does. -/
theorem readItems_write (hl : l.IsBlank) (hend : EndsNumber tail)
    (hclose : skipBlanks tail = ']' :: more) {item : Json} {items : List Json}
    (hplain : ∀ v ∈ items, v.IsPlain) (hback : ∀ v ∈ item :: items, ReadsBack d l v)
    (hfuel : 2 * (write l level item ++ (writeItems l level items ++ tail)).length + 1 ≤ fuel) :
    readItems d level (fuel + 2) (write l level item ++ (writeItems l level items ++ tail)) =
      unlessFault (itemsLimitFault? d level (item :: items)) (item :: items, more) := by
  have hitem := hback item List.mem_cons_self (endsNumber_writeItems l level items hend) hfuel
  induction items generalizing item fuel with
  | nil =>
      rw [itemsLimitFault?, itemsLimitFault?, Option.or_none]
      exact readItems_last hitem hclose
  | cons second items ih =>
      obtain ⟨hsecond, hplain⟩ := List.forall_mem_cons.mp hplain
      have hback := (List.forall_mem_cons.mp hback).2
      have hrest : writeItems l level (second :: items) ++ tail =
          ',' :: (l.afterComma level ++
            (write l level second ++ (writeItems l level items ++ tail))) := by
        simp only [writeItems, List.append_assoc, List.cons_append]
      obtain ⟨fuel, rfl⟩ : ∃ n, fuel = n + 1 := ⟨fuel - 1, by omega⟩
      have hlength : 2 * (write l level second ++ (writeItems l level items ++ tail)).length + 1 ≤
          fuel := by
        simp only [hrest, List.length_append, List.length_cons] at hfuel ⊢
        omega
      have hitems := ih hplain hback hlength
        (hback second List.mem_cons_self (endsNumber_writeItems l level items hend) hlength)
      rw [itemsLimitFault?]
      apply readItems_comma hitem (congrArg skipBlanks hrest)
      rw [skipBlanks_append_write (hl.afterComma level) level hsecond]
      exact hitems

/-- A member as it stands in an object's text. -/
def writeMember (l : Layout) (level : Nat) (member : Text × Json) : List Char :=
  writeString l.charset member.1 ++ ':' :: l.afterColon ++ write l level member.2

/-- A member is its name between quotes, a colon and its value. -/
theorem writeMember_append (hset : l.charset = .unicode) (level : Nat) (name : String)
    (value : Json) (rest : List Char) :
    writeMember l level (name, value) ++ rest =
      '"' :: (name.toList.flatMap (stringChar .unicode) ++
        '"' :: ':' :: (l.afterColon ++ (write l level value ++ rest))) := by
  simp only [writeMember, hset, writeString_ofString, List.append_assoc, List.cons_append,
    List.nil_append]

/-- Blanks are skipped up to a member. -/
theorem skipBlanks_append_writeMember {blanks : List Char} (h : ∀ c ∈ blanks, isBlank c = true)
    (level : Nat) (member : Text × Json) (rest : List Char) :
    skipBlanks (blanks ++ (writeMember l level member ++ rest)) =
      writeMember l level member ++ rest :=
  skipBlanks_append h (c := '"') rfl _

/-- The first steps of a reader at a member: its name up to the colon, and its value. -/
theorem readMember_of_readsBack (hl : l.IsBlank) (hset : l.charset = .unicode) {name : Text}
    {value : Json} (hname : ∃ s : String, name = s) (hplain : value.IsPlain)
    (hback : ReadsBack d l value)
    {rest : List Char} (hrest : EndsNumber rest)
    (hfuel : 2 * (writeMember l level (name, value) ++ rest).length + 1 ≤ fuel) :
    ∃ cs next, writeMember l level (name, value) ++ rest = '"' :: cs ∧
      readString d (fuel + 1) cs = .ok (name, ':' :: next) ∧
      readValue d level (fuel + 1) (skipBlanks next) =
        unlessFault (value.limitFault? d level) (value, rest) := by
  obtain ⟨name, rfl⟩ := hname
  rw [writeMember_append hset] at hfuel ⊢
  simp only [List.length_append, List.length_cons] at hfuel
  refine ⟨_, _, rfl, readString_writeString d name _ (by omega), ?_⟩
  rw [skipBlanks_append_write hl.afterColon level hplain]
  exact hback hrest (by rw [List.length_append]; omega)

/-- The members of an object come back if each of their values does, behind those read before. -/
theorem readMembers_write (hl : l.IsBlank) (hset : l.charset = .unicode) (hend : EndsNumber tail)
    (hclose : skipBlanks tail = '}' :: more) {before : Members} {name : Text} {value : Json}
    {members : Members} (hdistinct : ((before ++ (name, value) :: members).map Prod.fst).Nodup)
    (hnames : ∀ n ∈ name :: members.map Prod.fst, ∃ s : String, n = s)
    (hplain : ∀ v ∈ value :: members.map Prod.snd, v.IsPlain)
    (hback : ∀ v ∈ value :: members.map Prod.snd, ReadsBack d l v)
    (hfuel : 2 * (writeMember l level (name, value) ++
      (writeMembers l level members ++ tail)).length + 1 ≤ fuel) :
    readMembers d level (fuel + 2) before
        (writeMember l level (name, value) ++ (writeMembers l level members ++ tail)) =
      unlessFault (membersLimitFault? d level ((name, value) :: members))
        (before ++ (name, value) :: members, more) := by
  induction members generalizing before name value fuel with
  | nil =>
      obtain ⟨cs, next, htext, hname, hvalue⟩ := readMember_of_readsBack hl hset
        (hnames name List.mem_cons_self) (hplain value List.mem_cons_self)
        (hback value List.mem_cons_self) (endsNumber_writeMembers l level [] hend) hfuel
      rw [htext, membersLimitFault?, membersLimitFault?, Option.or_none,
        ← setMember_of_nodup hdistinct]
      exact readMembers_last hname hvalue hclose
  | cons second members ih =>
      obtain ⟨secondName, secondValue⟩ := second
      have hrest : writeMembers l level ((secondName, secondValue) :: members) ++ tail =
          ',' :: (l.afterComma level ++ (writeMember l level (secondName, secondValue) ++
            (writeMembers l level members ++ tail))) := by
        simp only [writeMembers, writeMember, List.append_assoc, List.cons_append]
      obtain ⟨cs, next, htext, hname, hvalue⟩ := readMember_of_readsBack hl hset
        (hnames name List.mem_cons_self) (hplain value List.mem_cons_self)
        (hback value List.mem_cons_self)
        (endsNumber_writeMembers l level ((secondName, secondValue) :: members) hend) hfuel
      have hadded := setMember_of_nodup hdistinct
      obtain ⟨fuel, rfl⟩ : ∃ n, fuel = n + 1 := ⟨fuel - 1, by omega⟩
      have hlength : 2 * (writeMember l level (secondName, secondValue) ++
          (writeMembers l level members ++ tail)).length + 1 ≤ fuel := by
        simp only [hrest, List.length_append, List.length_cons] at hfuel ⊢
        omega
      rw [List.append_cons] at hdistinct ⊢
      have hmembers := ih hdistinct (List.forall_mem_cons.mp hnames).2
        (List.forall_mem_cons.mp hplain).2 (List.forall_mem_cons.mp hback).2 hlength
      rw [← hadded] at hmembers ⊢
      rw [htext, membersLimitFault?]
      apply readMembers_comma hname hvalue (congrArg skipBlanks hrest)
      rw [skipBlanks_append_writeMember (hl.afterComma level)]
      exact hmembers

/-- What starts with none of the three marks is a word or a number. -/
theorem readValue_eq_readAtom {c : Char} (hquote : c ≠ '"') (hbracket : c ≠ '[')
    (hbrace : c ≠ '{') (cs : List Char) :
    readValue d level (fuel + 1) (c :: cs) = readAtom d (c :: cs) := by
  rw [readValue]
  · rintro rest ⟨⟩
    exact hquote rfl
  · rintro rest ⟨⟩
    exact hbracket rfl
  · rintro rest ⟨⟩
    exact hbrace rfl

/-- A whole number comes back. -/
theorem readsBack_int (n : Int) : ReadsBack d l (.int n) := by
  intro level fuel rest hrest hfuel
  have hatom := readAtom_intText d n hrest
  have hvalue :
      readValue d level (fuel + 1) (intText n ++ rest) = readAtom d (intText n ++ rest) := by
    cases n with
    | ofNat n =>
        obtain ⟨c, cs, hdigits, hdigit, -⟩ := toDigits_eq_cons n
        rw [intText, hdigits, List.cons_append]
        exact readValue_eq_readAtom (ne_of_isDigit hdigit rfl) (ne_of_isDigit hdigit rfl)
          (ne_of_isDigit hdigit rfl) _
    | negSucc n => exact readValue_eq_readAtom (by decide) (by decide) (by decide) _
  rw [hatom] at hvalue
  exact hvalue

/-- So does a string. -/
theorem readsBack_str (hset : l.charset = .unicode) (s : String) : ReadsBack d l (.str s) := by
  intro level fuel rest _ hfuel
  have htext : write l level (.str s) ++ rest =
      '"' :: (s.toList.flatMap (stringChar .unicode) ++ '"' :: rest) := by
    simp only [write, writeLeaf, hset, writeString_ofString, List.cons_append, List.append_assoc,
      List.nil_append]
  rw [htext] at hfuel ⊢
  have hbody : (s.toList.flatMap (stringChar .unicode)).length < fuel := by
    simp only [List.length_cons, List.length_append] at hfuel
    omega
  rw [readValue, readString_writeString d s rest hbody]
  rfl

/-- So does a list of values that do. -/
theorem readsBack_arr (hl : l.IsBlank) {items : List Json} (hplain : ∀ v ∈ items, v.IsPlain)
    (hback : ∀ v ∈ items, ReadsBack d l v) : ReadsBack d l (.arr items) := by
  intro level fuel rest _ hfuel
  cases items with
  | nil =>
      show (if d.tooDeep level true then _ else _) =
        unlessFault (if d.tooDeep level true then _ else _) _
      split <;> rfl
  | cons item items =>
      obtain ⟨hitem, hitems⟩ := List.forall_mem_cons.mp hplain
      have htext : write l level (.arr (item :: items)) ++ rest =
          '[' :: (l.beforeItem (level + 1) ++ (write l (level + 1) item ++
            (writeItems l (level + 1) items ++ (l.afterLast level ++ ']' :: rest)))) := by
        simp only [write, List.append_assoc, List.cons_append, List.nil_append]
      have hend : EndsNumber (l.afterLast level ++ ']' :: rest) :=
        endsNumber_append (hl.afterLast level) ⟨rfl, by decide, by decide, by decide⟩
      have hclose := skipBlanks_append (hl.afterLast level) (c := ']') rfl rest
      obtain ⟨fuel, rfl⟩ : ∃ n, fuel = n + 2 := ⟨fuel - 2, by
        rw [htext, List.length_cons] at hfuel
        omega⟩
      have hlength : 2 * (write l (level + 1) item ++ (writeItems l (level + 1) items ++
          (l.afterLast level ++ ']' :: rest))).length + 1 ≤ fuel := by
        simp only [htext, List.length_append, List.length_cons] at hfuel ⊢
        omega
      have hread := readItems_write hl hend hclose hitems hback hlength
      obtain ⟨c, cs, hfront, hstart⟩ := write_eq_cons l (level + 1) hitem
      rw [htext, limitFault?]
      rw [hfront, List.cons_append] at hread ⊢
      exact readValue_arr (hl.beforeItem (level + 1)) hstart hread

/-- And an object of them, if no name comes twice. -/
theorem readsBack_obj (hl : l.IsBlank) (hset : l.charset = .unicode) {members : Members}
    (hdistinct : (members.map Prod.fst).Nodup)
    (hnames : ∀ name ∈ members.map Prod.fst, ∃ s : String, name = s)
    (hplain : ∀ v ∈ members.map Prod.snd, v.IsPlain)
    (hback : ∀ v ∈ members.map Prod.snd, ReadsBack d l v) : ReadsBack d l (.obj members) := by
  intro level fuel rest _ hfuel
  rcases members with _ | ⟨⟨name, value⟩, members⟩
  · show (if d.tooDeep level true then _ else _) =
      unlessFault (if d.tooDeep level true then _ else _) _
    split <;> rfl
  · have htext : write l level (.obj ((name, value) :: members)) ++ rest =
        '{' :: (l.beforeItem (level + 1) ++ (writeMember l (level + 1) (name, value) ++
          (writeMembers l (level + 1) members ++ (l.afterLast level ++ '}' :: rest)))) := by
      simp only [write, writeMember, List.append_assoc, List.cons_append, List.nil_append]
    have hend : EndsNumber (l.afterLast level ++ '}' :: rest) :=
      endsNumber_append (hl.afterLast level) ⟨rfl, by decide, by decide, by decide⟩
    have hclose := skipBlanks_append (hl.afterLast level) (c := '}') rfl rest
    obtain ⟨fuel, rfl⟩ : ∃ n, fuel = n + 2 := ⟨fuel - 2, by
      rw [htext, List.length_cons] at hfuel
      omega⟩
    have hlength : 2 * (writeMember l (level + 1) (name, value) ++
        (writeMembers l (level + 1) members ++ (l.afterLast level ++ '}' :: rest))).length + 1 ≤
          fuel := by
      simp only [htext, List.length_append, List.length_cons] at hfuel ⊢
      omega
    have hnone : (([] ++ (name, value) :: members).map Prod.fst).Nodup := hdistinct
    have hread := readMembers_write hl hset hend hclose hnone hnames hplain hback hlength
    rw [htext, limitFault?]
    exact readValue_obj (hl.beforeItem (level + 1)) (c := '"') (by decide) hread

/-- Every plain value comes back from its text, or is refused for the first limit in it. -/
theorem readsBack_of_isPlain (d : Dialect) (hl : l.IsBlank) (hset : l.charset = .unicode) {v : Json}
    (hv : v.IsPlain) : ReadsBack d l v := by
  induction hv with
  | null =>
      intro level fuel rest _ _
      rfl
  | bool b =>
      intro level fuel rest _ _
      cases b <;> rfl
  | int n => exact readsBack_int n
  | str s => exact readsBack_str hset s
  | arr hitems ih => exact readsBack_arr hl hitems ih
  | obj hdistinct hnames hvalues ih => exact readsBack_obj hl hset hdistinct hnames hvalues ih

/-- A text of a plain value denotes that value, or is refused for the first limit in it. -/
theorem readText_write (d : Dialect) (hl : l.IsBlank) (hset : l.charset = .unicode) {v : Json}
    (hv : v.IsPlain) : readText d (write l 0 v) = unlessFault (v.limitFault? d 0) v := by
  have hend : EndsNumber [] := trivial
  have hfuel : 2 * (write l 0 v ++ []).length + 1 ≤ 2 * (write l 0 v).length + 1 := by
    simp only [List.append_nil, Nat.le_refl]
  have hread := readsBack_of_isPlain d hl hset hv hend hfuel
  have hblanks := skipBlanks_append_write (List.forall_mem_nil _) 0 hv (l := l) []
  obtain ⟨c, cs, hfront, -, -, -, hmark⟩ := write_eq_cons l 0 hv
  rw [List.append_nil] at hread
  rw [List.nil_append, List.append_nil] at hblanks
  unfold readText
  split
  · rename_i rest htext
    rw [hfront] at htext
    cases htext
    exact absurd rfl hmark
  · rw [hblanks, fuelFor, hread]
    cases v.limitFault? d 0 <;> rfl

/-- The compact layout puts nothing between the parts of a value. -/
theorem Layout.isBlank_compact : Layout.compact.IsBlank where
  beforeItem := by simp [Layout.compact]
  afterComma := by simp [Layout.compact]
  afterLast := by simp [Layout.compact]
  afterColon := by simp [Layout.compact]

/-- The compact text of a plain value denotes it, within the limits of the reader. -/
theorem readText_compact (d : Dialect) {v : Json} (hv : v.IsPlain) :
    readText d v.compact.toList = unlessFault (v.limitFault? d 0) v := by
  rw [compact, String.toList_ofList]
  exact readText_write d Layout.isBlank_compact rfl hv

/-- The same of a string and the reader that all commands use. -/
theorem read_compact {v : Json} (hv : v.IsPlain) (hlimits : v.limitFault? .loose 0 = none) :
    read v.compact = .ok v := by
  rw [read, readChars, readText_compact .loose hv, hlimits]
  rfl

end Json

end TagSearch
