import TagSearch.Proofs.EncodedText
import TagSearch.Proofs.ItemRecords
import TagSearch.Proofs.ItemsFileCommands

/-!
# Items files come back

`items_file_comes_back_iff`: which lists of items come back, as they are, from the file that they are
written to.  Between the two stand the records' texts, the commas and brackets around them, UTF-8, and a
reader that takes all three line ends as one.

1.  Without blanks it does not matter at which level a value is written (`write_compact_level`), so records
    that are written one by one and joined are the text of one list (`toList_itemsText`).
2.  Strings escape their carriage returns, and nothing else writes any (`not_mem_write`), so that there
    are no line ends to unify.
3.  Bytes come back by `decodeUtf8_toUTF8`, the list by `readText_write`, and its items by
    `Item.ofJson_toJson`.

What is left is the limit of the reader on the digits of a number, and a surrogate, which has no encoding.
-/

namespace TagSearch

namespace Json

mutual

/-- A value without blanks is written alike at every level. -/
theorem write_compact_level (level : Nat) (v : Json) :
    write .compact level v = write .compact 0 v := by
  cases v with
  | arr items =>
      cases items with
      | nil => rfl
      | cons item items =>
          rw [write, write, write_compact_level (level + 1) item, write_compact_level (0 + 1) item,
            writeItems_compact_level (level + 1) items, writeItems_compact_level (0 + 1) items]
          rfl
  | obj members =>
      rcases members with _ | ⟨⟨name, value⟩, members⟩
      · rfl
      · rw [write, write, write_compact_level (level + 1) value, write_compact_level (0 + 1) value,
          writeMembers_compact_level (level + 1) members, writeMembers_compact_level (0 + 1) members]
        rfl
  | _ => rfl

/-- So are items. -/
theorem writeItems_compact_level (level : Nat) (items : List Json) :
    writeItems .compact level items = writeItems .compact 0 items := by
  cases items with
  | nil => rfl
  | cons item items =>
      rw [writeItems, writeItems, write_compact_level level item,
        writeItems_compact_level level items]
      rfl

/-- So are members. -/
theorem writeMembers_compact_level (level : Nat) (members : Members) :
    writeMembers .compact level members = writeMembers .compact 0 members := by
  rcases members with _ | ⟨⟨name, value⟩, members⟩
  · rfl
  · rw [writeMembers, writeMembers, write_compact_level level value,
      writeMembers_compact_level level members]
    rfl

end

/-! The same layout part by part, with all values at the first level. -/

/-- A list starts with its first item. -/
theorem write_compact_arr (item : Json) (items : List Json) :
    write .compact 0 (.arr (item :: items)) =
      '[' :: (write .compact 0 item ++ (writeItems .compact 0 items ++ [']'])) := by
  rw [write, write_compact_level (0 + 1) item, writeItems_compact_level (0 + 1) items]
  show '[' :: (write .compact 0 item ++ writeItems .compact 0 items ++ [] ++ [']']) = _
  rw [List.append_nil, List.append_assoc]

/-- Each further item stands behind a comma. -/
theorem writeItems_compact_cons (item : Json) (items : List Json) :
    writeItems .compact 0 (item :: items) =
      ',' :: (write .compact 0 item ++ writeItems .compact 0 items) := by
  rw [writeItems]
  rfl

/-- An object starts with its first member. -/
theorem write_compact_obj (name : Text) (value : Json) (members : Members) :
    write .compact 0 (.obj ((name, value) :: members)) =
      '{' :: (writeString .unicode name ++
        ':' :: (write .compact 0 value ++ (writeMembers .compact 0 members ++ ['}']))) := by
  rw [write, write_compact_level (0 + 1) value, writeMembers_compact_level (0 + 1) members]
  simp [Layout.compact]

/-- Each further member stands behind a comma. -/
theorem writeMembers_compact_cons (name : Text) (value : Json) (members : Members) :
    writeMembers .compact 0 ((name, value) :: members) =
      ',' :: (writeString .unicode name ++
        ':' :: (write .compact 0 value ++ writeMembers .compact 0 members)) := by
  rw [writeMembers]
  simp [Layout.compact]

/-- A carriage return is escaped like every control character, and no escape has one. -/
theorem not_mem_stringChar (c : Char) : '\r' ∉ stringChar .unicode c := by
  by_cases hcontrol : c.toNat < 0x20
  · have hescape : ∀ n < 0x20, '\r' ∉ stringChar .unicode (Char.ofNat n) := by decide
    have hchar := hescape c.toNat hcontrol
    rw [Char.ofNat_toNat] at hchar
    exact hchar
  by_cases hquote : c = '"'
  · rw [hquote]
    decide
  by_cases hslash : c = '\\'
  · rw [hslash]
    decide
  -- every other character stands for itself
  have hne : ∀ w : Char, w.toNat < 0x20 → c ≠ w := by
    intro w hw hc
    rw [hc] at hcontrol
    exact hcontrol hw
  have hself : stringChar .unicode c = [c] := by
    simp only [stringChar, if_neg hquote, if_neg hslash, if_neg (hne '\x08' (by decide)),
      if_neg (hne '\x0c' (by decide)), if_neg (hne '\n' (by decide)), if_neg (hne '\r' (by decide)),
      if_neg (hne '\t' (by decide)), if_neg hcontrol, ite_self]
  rw [hself, List.mem_singleton]
  exact (hne '\r' (by decide)).symm

/-- No string is written with a carriage return. -/
theorem not_mem_writeString (s : String) : '\r' ∉ writeString .unicode (.ofString s) := by
  have hchars : '\r' ∉ s.toList.flatMap (stringChar .unicode) := by
    intro hmem
    obtain ⟨c, -, hc⟩ := List.mem_flatMap.mp hmem
    exact not_mem_stringChar c hc
  rw [writeString_ofString]
  simp [hchars]

/-- Nor is a whole number. -/
theorem not_mem_intText (n : Int) : '\r' ∉ intText n := by
  have hdigits : ∀ k, '\r' ∉ Nat.toDigits 10 k := fun k hmem =>
    ne_of_isDigit (isDigit_of_mem_toDigits hmem) (w := '\r') rfl rfl
  cases n with
  | ofNat n => exact hdigits n
  | negSucc n =>
      rw [intText, List.mem_cons, not_or]
      exact ⟨by decide, hdigits (n + 1)⟩

/-- Items have no carriage return if none of them has one. -/
theorem not_mem_writeItems {items : List Json} (h : ∀ v ∈ items, '\r' ∉ write .compact 0 v) :
    '\r' ∉ writeItems .compact 0 items := by
  induction items with
  | nil => exact List.not_mem_nil
  | cons item items ih =>
      obtain ⟨hitem, hitems⟩ := List.forall_mem_cons.mp h
      rw [writeItems_compact_cons]
      simp [hitem, ih hitems]

/-- Nor have members whose values have none. -/
theorem not_mem_writeMembers {members : Members}
    (hnames : ∀ name ∈ members.map Prod.fst, ∃ s : String, name = s)
    (h : ∀ v ∈ members.map Prod.snd, '\r' ∉ write .compact 0 v) :
    '\r' ∉ writeMembers .compact 0 members := by
  induction members with
  | nil => exact List.not_mem_nil
  | cons member members ih =>
      obtain ⟨hname, hnames⟩ := List.forall_mem_cons.mp hnames
      obtain ⟨hvalue, hvalues⟩ := List.forall_mem_cons.mp h
      obtain ⟨s, hs⟩ := hname
      rw [writeMembers_compact_cons, hs]
      simp [not_mem_writeString, hvalue, ih hnames hvalues]

/-- **A plain value is written without carriage returns.** -/
theorem not_mem_write {v : Json} (hv : v.IsPlain) : '\r' ∉ write .compact 0 v := by
  induction hv with
  | null => decide
  | bool b => cases b <;> decide
  | int n => exact not_mem_intText n
  | str s => exact not_mem_writeString s
  | @arr items _ ih =>
      cases items with
      | nil => decide
      | cons item items =>
          obtain ⟨hitem, hitems⟩ := List.forall_mem_cons.mp ih
          rw [write_compact_arr]
          simp [hitem, not_mem_writeItems hitems]
  | @obj members _ hnames _ ih =>
      rcases members with _ | ⟨⟨name, value⟩, members⟩
      · decide
      · obtain ⟨hname, hothers⟩ := List.forall_mem_cons.mp hnames
        obtain ⟨hvalue, hvalues⟩ := List.forall_mem_cons.mp ih
        obtain ⟨s, rfl : name = .ofString s⟩ := hname
        rw [write_compact_obj]
        simp [not_mem_writeString, hvalue, not_mem_writeMembers hothers hvalues]

end Json

/-- A text without carriage returns has no line ends to unify. -/
theorem unifyLineEnds_of_not_mem {text : List Char} (h : '\r' ∉ text) : unifyLineEnds text = text := by
  fun_induction unifyLineEnds text with
  | case1 rest ih => exact absurd List.mem_cons_self h
  | case2 rest _ ih => exact absurd List.mem_cons_self h
  | case3 c rest _ _ ih => rw [ih (List.not_mem_of_not_mem_cons h)]
  | case4 => rfl

/-- Values joined by commas are the items of one list. -/
theorem intercalate_write (first : Json) (rest : List Json) :
    [','].intercalate ((first :: rest).map (Json.write .compact 0)) =
      Json.write .compact 0 first ++ Json.writeItems .compact 0 rest := by
  induction rest generalizing first with
  | nil => simp [Json.writeItems]
  | cons second rest ih =>
      rw [List.map_cons, List.map_cons, List.intercalate_cons_cons, ← List.map_cons, ih second,
        Json.writeItems_compact_cons, List.append_assoc]
      rfl

/-- The text of an items file is that of the list of its items. -/
theorem toList_itemsText (items : List Item) :
    (itemsText items).toList = Json.write .compact 0 (.arr (items.map Item.toJson)) := by
  have htexts : (items.map fun item => item.toJson.compact).map String.toList =
      (items.map Item.toJson).map (Json.write .compact 0) := by
    simp [Json.compact, Function.comp_def]
  rw [itemsText, String.toList_append, String.toList_append, String.toList_intercalate, htexts]
  cases items with
  | nil => rfl
  | cons item items =>
      have hjoined := intercalate_write item.toJson (items.map Item.toJson)
      have hcomma : ",".toList = [','] := rfl
      rw [List.map_cons, hcomma, hjoined, Json.write_compact_arr]
      simp

/-- **A file with the text of a plain value** is read as that value, unless a limit stands in the way. -/
theorem Json.ofBytes_of_write {v : Json} (hv : v.IsPlain) {text : String}
    (htext : text.toList = write .compact 0 v) :
    Json.ofBytes text.toUTF8.toList =
      (unlessFault (v.limitFault? .loose 0) v).mapError fun f => .unreadableJson (f.within text.toList) := by
  have hreturn : '\r' ∉ text.toList := by
    rw [htext]
    exact not_mem_write hv
  have hread : readText .loose text.toList = unlessFault (v.limitFault? .loose 0) v := by
    rw [htext]
    exact readText_write .loose Layout.isBlank_compact rfl hv
  rw [Json.ofBytes, decodeUtf8_toUTF8]
  dsimp only
  rw [unifyLineEnds_of_not_mem hreturn, readChars, hread]
  cases v.limitFault? .loose 0 <;> rfl

section

variable {items : List Item}

/-- **Items are written to a file** exactly if each of them has an encoding. -/
theorem itemsFile_cases (items : List Item) :
    ((∀ item ∈ items, item.Encodable) ∧ itemsFile items = .ok (itemsText items).toUTF8.toList) ∨
      (∃ item ∈ items, ¬item.Encodable) ∧ ∃ f, itemsFile items = .error (.unwritable f) := by
  have hwritten : (items.findSome? fun item => item.toJson.encodingFault?) = none ↔
      ∀ item ∈ items, item.Encodable := by
    simp only [List.findSome?_eq_none_iff, Json.encodingFault?_eq_none_iff, Item.encodable_iff]
  rw [itemsFile]
  cases hfault : items.findSome? fun item => item.toJson.encodingFault? with
  | none => exact Or.inl ⟨hwritten.mp hfault, rfl⟩
  | some f =>
      have hnot : ¬∀ item ∈ items, item.Encodable := by
        intro hall
        cases hfault.symm.trans (hwritten.mpr hall)
      refine Or.inr ⟨?_, f, rfl⟩
      simpa only [not_forall, exists_prop] using hnot

/-- **Items that were written are read**, all of them as they were, unless a number is too large. -/
theorem itemsOfBytes_itemsText (path : String) (h : ∀ item ∈ items, item.Encodable) :
    ((∀ item ∈ items, ∀ n ∈ item.numbers, Json.Dialect.loose.Takes n) ∧
      itemsOfBytes path (itemsText items).toUTF8.toList = .ok items) ∨
    (¬(∀ item ∈ items, ∀ n ∈ item.numbers, Json.Dialect.loose.Takes n) ∧
      ∃ e, itemsOfBytes path (itemsText items).toUTF8.toList = .error (.unreadableJson e)) := by
  have hbytes := Json.ofBytes_of_write (Item.isPlain_list h) (toList_itemsText items)
  have hlimit : (Json.arr (items.map Item.toJson)).limitFault? .loose 0 = none ↔
      ∀ item ∈ items, ∀ n ∈ item.numbers, Json.Dialect.loose.Takes n :=
    Item.limitFault?_list_eq_none_iff (by decide)
  rw [itemsOfBytes, hbytes]
  cases hfault : (Json.arr (items.map Item.toJson)).limitFault? .loose 0 with
  | none =>
      refine Or.inl ⟨hlimit.mp hfault, Item.listOfJson_of_forall₂ ?_⟩
      simp [List.forall₂_map_left_iff, List.forall₂_same]
  | some f =>
      refine Or.inr ⟨?_, _, rfl⟩
      intro htaken
      cases hfault.symm.trans (hlimit.mpr htaken)

end

/-- **A list of items comes back from its file** exactly if every id and title in it has an encoding and no
id or tag is too large for the reader. -/
theorem items_file_comes_back_iff (path : String) (items : List Item) :
    (∃ bytes, itemsFile items = .ok bytes ∧ itemsOfEntry path (.file bytes) = .ok items) ↔
      ∀ item ∈ items, item.Encodable ∧ ∀ n ∈ item.numbers, Json.Dialect.loose.Takes n := by
  rcases itemsFile_cases items with ⟨hencodable, hfile⟩ | ⟨⟨item, hitem, hnot⟩, f, hfile⟩
  · rcases itemsOfBytes_itemsText path hencodable with ⟨htaken, hread⟩ | ⟨hnot, e, hread⟩
    · exact iff_of_true ⟨_, hfile, hread⟩ fun item hitem => ⟨hencodable item hitem, htaken item hitem⟩
    · refine iff_of_false ?_ fun h => hnot fun item hitem => (h item hitem).2
      intro hback
      obtain ⟨bytes, hbytes, hitems⟩ := hback
      obtain rfl := Except.ok.inj (hfile.symm.trans hbytes)
      cases hread.symm.trans hitems
  · refine iff_of_false ?_ fun h => hnot (h item hitem).1
    intro hback
    obtain ⟨bytes, hbytes, -⟩ := hback
    cases hfile.symm.trans hbytes

/-- Line ends of all three kinds in a title, and an id of digits beside the number. -/
example :
    let items : List Item := [⟨.text "5", "a\r\nb\rc\n\"\\\u0001é", [-1]⟩, ⟨.number 5, "", []⟩]
    (itemsFile items).bind (itemsOfBytes "i.json") = .ok items := by decide +kernel

/-- **Neither a lone surrogate nor a number of 4301 digits comes back** when it is the id of an item: the one
is not written, and the other is not read. -/
theorem odd_ids_do_not_come_back :
    let surrogate : Item := { id := .text ⟨"", [(⟨0x3d⟩, "")]⟩ }
    let long : Item := { id := .number (10 ^ maxDigits) }
    itemsFile [surrogate] = .error (.unwritable ⟨0, 0xd83d, 1⟩) ∧
      ∃ bytes e, itemsFile [long] = .ok bytes ∧
        itemsOfEntry "i.json" (.file bytes) = .error (.unreadableJson e) := by
  intro surrogate long
  have hencodable : ∀ item ∈ [long], item.Encodable :=
    List.forall_mem_singleton.mpr ⟨nofun, "", rfl⟩
  have hnot : ¬∀ item ∈ [long], ∀ n ∈ item.numbers, Json.Dialect.loose.Takes n := by
    intro htaken
    exact Json.Dialect.not_takes_pow .loose (htaken long List.mem_cons_self _ List.mem_cons_self)
  refine ⟨by decide +kernel, ?_⟩
  rcases itemsFile_cases [long] with ⟨-, hfile⟩ | ⟨⟨item, hitem, hodd⟩, -⟩
  · rcases itemsOfBytes_itemsText "i.json" hencodable with ⟨htaken, -⟩ | ⟨-, e, hread⟩
    · exact absurd htaken hnot
    · exact ⟨_, e, hfile, hread⟩
  · exact absurd (hencodable item hitem) hodd

end TagSearch
