import SecretAccess.Proofs.Resource.Categories
import SecretAccess.Proofs.Value

/-!
# Which allow-lists are accepted

An allow-list comes from outside as a value of any shape. It is read entry by entry, and an entry
has one of three ends:

* it is read, if its key is a text that is not blank and its value lists names
  (`AllowList.readEntry_of_isEntry`);
* it breaks the reading off (`AllowList.Derails`): the elements of what should list the names are
  taken before anything else about it is known, and null, truth values and numbers have none; and a
  key that holds a whole number beyond the digit limit cannot be written into its own refusal;
* it is refused in every other case (`AllowList.readEntry_of_refused`).

**`AllowList.fails_by_config_unless_derailed`** carries this over to whole values: an allow-list is
accepted exactly if it is a map all of whose entries can be read, and everything else is refused,
unless the first entry that cannot be read breaks the reading off.
-/

namespace SecretAccess

/-! ## Values without elements -/

/-- Whether a value is null, a truth value or a number. -/
def Value.IsScalar : Value → Prop
  | null | bool _ | number _ => True
  | text _ | list _ | map _ => False

/-- A scalar has no elements. -/
theorem Value.elements_of_isScalar {v : Value} (h : v.IsScalar) :
    v.elements = .error (.notIterable v.kind) := by
  cases v <;> first | rfl | cases h

/-- Every other value has elements. -/
theorem Value.exists_elements {v : Value} (h : ¬v.IsScalar) :
    ∃ items, v.elements = .ok items := by
  cases v <;> first | exact ⟨_, rfl⟩ | exact absurd trivial h

namespace AllowList

/-! ## Keys -/

/-- Whether a key names a category: it is a text with a character that is not blank. -/
def IsCategory (key : Value) : Prop := ∃ s, key = .text s ∧ ∃ c ∈ s.toList, Text.isBlank c = false

/-- A text names a category if it is not blank. -/
theorem isCategory_text_iff {s : String} :
    IsCategory (.text s) ↔ Text.isBlankText s = false := by
  rw [Text.isBlankText, List.all_eq_false]
  constructor
  · rintro ⟨_, hs, c, hc, hblank⟩
    cases hs
    exact ⟨c, hc, Bool.eq_false_iff.mp hblank⟩
  · rintro ⟨c, hc, hblank⟩
    exact ⟨s, rfl, c, hc, Bool.eq_false_iff.mpr hblank⟩

/-- The text of a key that names a category. -/
theorem categoryOfKey_of_isCategory {key : Value} (h : IsCategory key) :
    categoryOfKey key = .ok (key.text?.getD "") := by
  obtain ⟨s, rfl, -⟩ := id h
  exact categoryOfKey_eq_ok_iff.mpr ⟨rfl, isCategory_text_iff.mp h⟩

/-- No other key is taken. -/
theorem categoryOfKey_of_not_isCategory {key : Value} (h : ¬IsCategory key) :
    categoryOfKey key = .error (faultOfKey key) := by
  rcases hread : categoryOfKey key with fault | s
  · unfold categoryOfKey at hread
    split at hread
    · cases hread
    · exact hread.symm
  · obtain ⟨rfl, hblank⟩ := categoryOfKey_eq_ok_iff.mp hread
    exact absurd (isCategory_text_iff.mpr hblank) h

/-- A key that is not taken is refused, if it can be written. -/
theorem faultOfKey_of_written {key : Value} (h : key.written ≠ .error .tooManyDigits) :
    ∃ cause, faultOfKey key = .config cause := by
  unfold faultOfKey
  rcases hwritten : key.written with fault | shown
  · rw [Value.eq_tooManyDigits_of_written hwritten] at hwritten
    exact absurd hwritten h
  · exact ⟨_, rfl⟩

/-- A key that holds too long a number cannot be written. -/
theorem faultOfKey_of_long {key : Value} (h : key.written = .error .tooManyDigits) :
    faultOfKey key = .tooManyDigits := by
  unfold faultOfKey
  rw [h]

/-! ## Names -/

/-- Whether an item is a name: a text that is not empty. -/
def IsName (item : Value) : Prop := ∃ s, item = .text s ∧ s ≠ ""

/-- Whether a value lists names: it is no text, and each of its elements is a name. -/
structure ListsNames (v : Value) : Prop where
  /-- A text is not taken for the list of its characters. -/
  notText : ∀ s, v ≠ .text s
  /-- There are elements, and each is a name. -/
  elements : ∃ items, v.elements = .ok items ∧ ∀ item ∈ items, IsName item

/-- The texts among the elements of a value. -/
def textsOf (v : Value) : List String :=
  match v.elements with
  | .ok items => items.filterMap Value.text?
  | .error _ => []

/-- Items that are names are read as their texts. -/
theorem mapM_nameOfItem?_of_isName {items : List Value} (h : ∀ item ∈ items, IsName item) :
    items.mapM nameOfItem? = some (items.filterMap Value.text?) := by
  induction items with
  | nil => rfl
  | cons item rest ih =>
    rw [List.forall_mem_cons] at h
    obtain ⟨⟨s, rfl, hne⟩, hrest⟩ := h
    have hname : nameOfItem? (.text s) = some s := by
      unfold nameOfItem?
      rw [Value.text?, Option.filter_some, if_pos (decide_eq_true hne)]
    rw [List.mapM_cons, hname, ih hrest, List.filterMap_cons_some (rfl : Value.text? (.text s) = _)]
    rfl

/-- Items that are read are names. -/
theorem isName_of_mapM_nameOfItem? {items : List Value} {names : List String}
    (h : items.mapM nameOfItem? = some names) : ∀ item ∈ items, IsName item := by
  induction items generalizing names with
  | nil => nofun
  | cons item rest ih =>
    rw [List.mapM_cons] at h
    obtain ⟨name, hname, h⟩ := Option.bind_eq_some_iff.mp h
    obtain ⟨others, hothers, -⟩ := Option.bind_eq_some_iff.mp h
    obtain ⟨htext, hne⟩ := Option.filter_eq_some_iff.mp hname
    refine List.forall_mem_cons.mpr ⟨?_, ih hothers⟩
    cases item <;> cases htext
    exact ⟨name, rfl, of_decide_eq_true hne⟩

/-- The names of anything but a text are what its elements are read as. -/
theorem namesOfValue_of_not_text {v : Value} (h : ∀ s, v ≠ .text s) (category : String) :
    namesOfValue category v = v.elements >>= fun items =>
      match items.mapM nameOfItem? with
      | some names => .ok (names.map Text.lower).eraseDups
      | none => .error (.config (.namesNotTexts category)) := by
  cases v
  case text s => exact absurd rfl (h s)
  all_goals rfl

/-- **A value that lists names** is read as these names, in lower case and each once. -/
theorem namesOfValue_of_listsNames {v : Value} (h : ListsNames v) (category : String) :
    namesOfValue category v = .ok ((textsOf v).map Text.lower).eraseDups := by
  obtain ⟨items, hitems, hnames⟩ := h.elements
  rw [namesOfValue_of_not_text h.notText, bind_of_eq_ok hitems, textsOf, hitems,
    mapM_nameOfItem?_of_isName hnames]

/-- A scalar breaks the reading off. -/
theorem namesOfValue_of_isScalar {v : Value} (h : v.IsScalar) (category : String) :
    namesOfValue category v = .error (.notIterable v.kind) := by
  have hnot : ∀ s, v ≠ .text s := by
    rintro s rfl
    exact h
  rw [namesOfValue_of_not_text hnot, bind_of_eq_error (Value.elements_of_isScalar h)]

/-- Whatever lists no names and is no scalar is refused. -/
theorem namesOfValue_of_refused {v : Value} (hlist : ¬ListsNames v) (hscalar : ¬v.IsScalar)
    (category : String) : ∃ cause, namesOfValue category v = .error (.config cause) := by
  by_cases htext : ∃ s, v = .text s
  · obtain ⟨s, rfl⟩ := htext
    exact ⟨_, rfl⟩
  · have hnot : ∀ s, v ≠ .text s := fun s hs => htext ⟨s, hs⟩
    obtain ⟨items, hitems⟩ := Value.exists_elements hscalar
    rw [namesOfValue_of_not_text hnot, bind_of_eq_ok hitems]
    rcases hnames : items.mapM nameOfItem? with _ | names
    · exact ⟨_, rfl⟩
    · exact absurd ⟨hnot, items, hitems, isName_of_mapM_nameOfItem? hnames⟩ hlist

/-! ## Entries -/

/-- Whether an entry can be read: its key names a category, and its value lists names. -/
structure IsEntry (entry : Value × Value) : Prop where
  /-- The key names a category. -/
  category : IsCategory entry.1
  /-- The value lists names. -/
  names : ListsNames entry.2

/-- Whether an entry breaks the reading off, and with which fault. -/
inductive Derails : Value × Value → Fault → Prop
  /-- The key cannot be written, because a number that it is or holds is too long. -/
  | longKey (key names : Value) (h : key.written = .error .tooManyDigits) :
    Derails (key, names) .tooManyDigits
  /-- The key names a category, and its value has no elements. -/
  | noElements (key names : Value) (hkey : IsCategory key) (hnames : names.IsScalar) :
    Derails (key, names) (.notIterable names.kind)

/-- The category of an entry: the text of its key without outer blanks, in lower case. -/
def categoryOfEntry (entry : Value × Value) : String :=
  Text.lower (Text.strip (entry.1.text?.getD ""))

/-- What an entry is read as: its category with its names, in lower case and each once. -/
def reading (entry : Value × Value) : String × List String :=
  (categoryOfEntry entry, ((textsOf entry.2).map Text.lower).eraseDups)

variable {entry : Value × Value} {fault : Fault}

/-- **An entry that can be read** is. -/
theorem readEntry_of_isEntry (h : IsEntry entry) : readEntry entry = .ok (reading entry) := by
  unfold readEntry
  rw [bind_of_eq_ok (categoryOfKey_of_isCategory h.category),
    bind_of_eq_ok (namesOfValue_of_listsNames h.names _)]
  rfl

/-- An entry that breaks the reading off does so with its fault. -/
theorem readEntry_of_derails (h : Derails entry fault) : readEntry entry = .error fault := by
  unfold readEntry
  cases h with
  | longKey key names h =>
    have hkey : ¬IsCategory key := by
      rintro ⟨s, rfl, -⟩
      cases h
    rw [bind_of_eq_error (categoryOfKey_of_not_isCategory hkey), faultOfKey_of_long h]
  | noElements key names hkey hnames =>
    rw [bind_of_eq_ok (categoryOfKey_of_isCategory hkey),
      bind_of_eq_error (namesOfValue_of_isScalar hnames _)]

/-- **Every other entry is refused.** -/
theorem readEntry_of_refused (hentry : ¬IsEntry entry) (hfault : ∀ fault, ¬Derails entry fault) :
    ∃ cause, readEntry entry = .error (.config cause) := by
  obtain ⟨key, names⟩ := entry
  unfold readEntry
  by_cases hkey : IsCategory key
  · have hlist : ¬ListsNames names := fun h => hentry ⟨hkey, h⟩
    have hscalar : ¬names.IsScalar := fun h => hfault _ (.noElements key names hkey h)
    obtain ⟨cause, hcause⟩ := namesOfValue_of_refused hlist hscalar (key.text?.getD "")
    rw [bind_of_eq_ok (categoryOfKey_of_isCategory hkey), bind_of_eq_error hcause]
    exact ⟨cause, rfl⟩
  · have hwritten : key.written ≠ .error .tooManyDigits :=
      fun hlong => hfault _ (.longKey key names hlong)
    obtain ⟨cause, hcause⟩ := faultOfKey_of_written hwritten
    rw [bind_of_eq_error (categoryOfKey_of_not_isCategory hkey), hcause]
    exact ⟨cause, rfl⟩

/-- What is read is an entry that can be read. -/
theorem exists_readEntry_eq_ok_iff : (∃ read, readEntry entry = .ok read) ↔ IsEntry entry := by
  refine ⟨?_, fun h => ⟨_, readEntry_of_isEntry h⟩⟩
  rintro ⟨read, hread⟩
  by_contra hentry
  by_cases hfault : ∃ fault, Derails entry fault
  · obtain ⟨fault, hfault⟩ := hfault
    rw [readEntry_of_derails hfault] at hread
    cases hread
  · obtain ⟨cause, hcause⟩ := readEntry_of_refused hentry fun fault h => hfault ⟨fault, h⟩
    rw [hcause] at hread
    cases hread

/-- An entry that fails without being refused breaks the reading off. -/
theorem derails_of_readEntry (h : readEntry entry = .error fault)
    (hother : ¬∃ cause, fault = .config cause) : Derails entry fault := by
  by_cases hentry : IsEntry entry
  · rw [readEntry_of_isEntry hentry] at h
    cases h
  · by_contra hnot
    have hnone : ∀ other, ¬Derails entry other := by
      intro other hderails
      rw [readEntry_of_derails hderails] at h
      cases h
      exact hnot hderails
    obtain ⟨cause, hcause⟩ := readEntry_of_refused hentry hnone
    rw [hcause] at h
    cases h
    exact hother ⟨cause, rfl⟩

/-- A fault that breaks the reading off is no refusal. -/
theorem Derails.not_config (h : Derails entry fault) : ¬∃ cause, fault = .config cause := by
  rintro ⟨cause, rfl⟩
  cases h

/-! ## Allow-lists -/

/-- Whether the first entry of a map that cannot be read breaks the reading off. -/
def DerailsFirst (v : Value) (fault : Fault) : Prop :=
  ∃ before entry behind, v = .map (before ++ entry :: behind) ∧
    (∀ earlier ∈ before, IsEntry earlier) ∧ Derails entry fault

/-- A map is read entry by entry. -/
theorem ofValue_map (entries : List (Value × Value)) :
    ofValue (.map entries) = entries.mapM readEntry >>= fun reads => .ok (ofEntries reads) := rfl

/-- **Entries that can all be read** give the table of what they are read as. -/
theorem ofValue_of_isEntry {entries : List (Value × Value)}
    (h : ∀ entry ∈ entries, IsEntry entry) :
    ofValue (.map entries) = .ok (ofEntries (entries.map reading)) := by
  rw [ofValue_map, bind_of_eq_ok]
  exact mapM_eq_ok_map fun entry hentry => readEntry_of_isEntry (h entry hentry)

/-- A map whose entries are read is an allow-list with entries that can be read. -/
theorem isEntry_of_ofValue {entries : List (Value × Value)} {allowed : AllowList}
    (h : ofValue (.map entries) = .ok allowed) : ∀ entry ∈ entries, IsEntry entry := by
  obtain ⟨reads, hreads, -⟩ := exists_of_bind_eq_ok h
  intro entry hentry
  exact exists_readEntry_eq_ok_iff.mp (exists_mapM_eq_ok_iff.mp ⟨reads, hreads⟩ entry hentry)

/-- A map fails as its first entry that cannot be read. -/
theorem ofValue_map_eq_error_iff {entries : List (Value × Value)} :
    ofValue (.map entries) = .error fault ↔
      ∃ before entry behind, entries = before ++ entry :: behind ∧
        (∀ earlier ∈ before, IsEntry earlier) ∧ readEntry entry = .error fault := by
  rw [ofValue_map, bind_ok_eq_error_iff, mapM_eq_error_iff]
  simp only [exists_readEntry_eq_ok_iff]

/-- **An allow-list is read, refused, or breaks the reading off.** For every value from outside:

1. it is accepted exactly if it is a map and each of its entries has a key that names a category and
   a value that lists names;
2. if the first entry that cannot be read breaks the reading off, the reading fails with the fault
   of that entry;
3. nothing but a refused configuration can go wrong exactly if that is not so. -/
theorem fails_by_config_unless_derailed (v : Value) :
    ((∃ allowed, ofValue v = .ok allowed) ↔
        ∃ entries, v = .map entries ∧ ∀ entry ∈ entries, IsEntry entry) ∧
      (∀ fault, DerailsFirst v fault → ofValue v = .error fault) ∧
      (FailsByConfig (ofValue v) ↔ ∀ fault, ¬DerailsFirst v fault) := by
  have hderailed : ∀ fault, DerailsFirst v fault → ofValue v = .error fault := by
    rintro fault ⟨before, entry, behind, rfl, hbefore, hentry⟩
    exact ofValue_map_eq_error_iff.mpr
      ⟨before, entry, behind, rfl, hbefore, readEntry_of_derails hentry⟩
  refine ⟨⟨?_, ?_⟩, hderailed, ?_, ?_⟩
  · rintro ⟨allowed, hallowed⟩
    obtain ⟨entries, rfl⟩ := exists_entries_of_ofValue hallowed
    exact ⟨entries, rfl, isEntry_of_ofValue hallowed⟩
  · rintro ⟨entries, rfl, hentries⟩
    exact ⟨_, ofValue_of_isEntry hentries⟩
  · intro hfails fault hfirst
    have ⟨_, _, _, _, _, hentry⟩ := hfirst
    exact hentry.not_config (hfails fault (hderailed fault hfirst))
  · intro hnone fault hfault
    by_contra hother
    by_cases hmap : ∃ entries, v = .map entries
    · obtain ⟨entries, rfl⟩ := hmap
      obtain ⟨before, entry, behind, rfl, hbefore, hentry⟩ := ofValue_map_eq_error_iff.mp hfault
      exact hnone fault
        ⟨before, entry, behind, rfl, hbefore, derails_of_readEntry hentry hother⟩
    · -- what is no map is refused before there is any entry
      have hrefused : ofValue v = .error (.config .allowListNotMap) := by
        cases v
        case map entries => exact absurd ⟨entries, rfl⟩ hmap
        all_goals rfl
      rw [hrefused] at hfault
      cases hfault
      exact hother ⟨_, rfl⟩

/-- **Null in the place of names** is not refused: it breaks the reading off. -/
theorem null_for_names_derails :
    let v : Value := .map [(.text "oauth", .null)]
    ofValue v = .error (.notIterable "NoneType") ∧ ¬FailsByConfig (ofValue v) := by
  intro v
  have hread : ofValue v = .error (.notIterable "NoneType") := rfl
  refine ⟨hread, ?_⟩
  intro hfails
  obtain ⟨cause, hcause⟩ := hfails _ hread
  cases hcause

end AllowList

end SecretAccess
