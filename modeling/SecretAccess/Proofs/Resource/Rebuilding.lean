import SecretAccess.Proofs.Resource.Acceptance
import SecretAccess.Resource.AllowList

/-!
# Allow-lists that are built again

The categories of an allow-list are themselves a map of categories to names, and an allow-list can
be read from it again. Everything is in the form that reading brings it to (`AllowList.IsKept`):
names are in lower case, categories are trimmed and in lower case, and none occurs twice. Lowering
neither makes a blank nor leaves nothing, and has nothing more to do the second time. So **nothing
changes when an allow-list is built again** (`AllowList.rebuilding_changes_nothing`), in whatever
order the names of a category come, which are a set.
-/

namespace SecretAccess.AllowList

variable {entry : Value × Value} {kept again : String × List String}

/-! ## What is kept -/

/-- Whether a category with its names is in the form in which it is kept. -/
structure IsKept (kept : String × List String) : Prop where
  /-- The category is not empty. -/
  ne_empty : kept.1 ≠ ""
  /-- The category has no outer blanks. -/
  stripped : Text.strip kept.1 = kept.1
  /-- The category is in lower case. -/
  lowered : Text.lower kept.1 = kept.1
  /-- The names are not empty and in lower case. -/
  names : ∀ name ∈ kept.2, name ≠ "" ∧ Text.lower name = name
  /-- No name occurs twice. -/
  nodup : kept.2.Nodup

/-- A text names a category if stripping leaves anything of it. -/
theorem isCategory_text_iff_strip {s : String} : IsCategory (.text s) ↔ Text.strip s ≠ "" := by
  rw [isCategory_text_iff, Ne, Text.strip_eq_empty_iff, Bool.not_eq_true]

/-- The texts among the elements of a value that lists names are not empty. -/
theorem ne_empty_of_mem_textsOf {v : Value} (h : ListsNames v) {s : String}
    (hs : s ∈ textsOf v) : s ≠ "" := by
  obtain ⟨items, hitems, hnames⟩ := h.elements
  rw [textsOf, hitems, List.mem_filterMap] at hs
  obtain ⟨item, hitem, htext⟩ := hs
  obtain ⟨t, rfl, ht⟩ := hnames item hitem
  cases htext
  exact ht

/-- **What an entry is read as** is kept in that form. -/
theorem isKept_reading (h : IsEntry entry) : IsKept (reading entry) := by
  obtain ⟨key, value⟩ := entry
  obtain ⟨s, rfl, -⟩ := id h.category
  have hne : Text.strip s ≠ "" := isCategory_text_iff_strip.mp h.category
  refine ⟨?_, ?_, Text.lower_lower _, ?_, nodup_eraseDups _⟩
  · rw [reading, categoryOfEntry, Ne, Text.lower_eq_empty_iff]
    exact hne
  · exact Text.strip_of_isTrimmed (Text.isTrimmed_strip s).lower
  · intro name hname
    rw [reading, List.mem_eraseDups] at hname
    obtain ⟨text, htext, rfl⟩ := List.mem_map.mp hname
    refine ⟨?_, Text.lower_lower text⟩
    rw [Ne, Text.lower_eq_empty_iff]
    exact ne_empty_of_mem_textsOf h.names htext

/-- The categories of an allow-list that was read are kept in that form, and none occurs twice. -/
theorem isKept_of_mem_categories {listed : Value} {allowed : AllowList}
    (h : ofValue listed = .ok allowed) :
    (∀ kept ∈ allowed.categories, IsKept kept) ∧ (allowed.categories.map (·.1)).Nodup := by
  obtain ⟨entries, rfl⟩ := exists_entries_of_ofValue h
  have hentries := isEntry_of_ofValue h
  rw [ofValue_of_isEntry hentries, Except.ok.injEq] at h
  subst h
  refine ⟨?_, Table.nodup_keys_writeAll _⟩
  intro kept hkept
  obtain ⟨entry, hentry, rfl⟩ := List.mem_map.mp (Table.mem_of_mem_writeAll hkept)
  exact isKept_reading (hentries entry hentry)

/-! ## Showing what is kept -/

/-- A category with its names as an entry of a map. -/
def entryOf (kept : String × List String) : Value × Value :=
  (.text kept.1, .list (kept.2.map .text))

/-- Whether two categories are the same with the same names, in whatever order. -/
def IsSame (again kept : String × List String) : Prop := again.1 = kept.1 ∧ again.2.Perm kept.2

/-- Whether a value shows some categories: as a map of them in their order, each to a list of its
names in any order. -/
def Shows (categories : List (String × List String)) (v : Value) : Prop :=
  ∃ shown, v = .map (shown.map entryOf) ∧ List.Forall₂ IsSame shown categories

/-- The form in which a category is kept does not depend on the order of its names. -/
theorem IsKept.of_isSame (h : IsKept kept) (hsame : IsSame again kept) : IsKept again := by
  obtain ⟨category, names⟩ := again
  obtain ⟨rfl, hnames⟩ := hsame
  exact ⟨h.ne_empty, h.stripped, h.lowered,
    fun name hname => h.names name (hnames.mem_iff.mp hname), hnames.nodup_iff.mpr h.nodup⟩

/-- **What is kept is read as it is.** -/
theorem reading_entryOf (h : IsKept kept) :
    IsEntry (entryOf kept) ∧ reading (entryOf kept) = kept := by
  obtain ⟨category, names⟩ := kept
  have htexts : textsOf (.list (names.map .text)) = names := by
    rw [textsOf, Value.elements]
    dsimp only
    rw [List.filterMap_map]
    exact List.filterMap_some
  have hlowered : names.map Text.lower = names := by
    rw [List.map_congr_left fun name hname => (h.names name hname).2, List.map_id']
  have hlist : ∀ s : String, Value.list (names.map .text) ≠ .text s := by
    intro s hs
    cases hs
  constructor
  · refine ⟨isCategory_text_iff_strip.mpr (h.stripped.symm ▸ h.ne_empty), hlist, _, rfl, ?_⟩
    intro item hitem
    obtain ⟨name, hname, rfl⟩ := List.mem_map.mp hitem
    exact ⟨name, rfl, (h.names name hname).1⟩
  · have hcategory : categoryOfEntry (entryOf (category, names)) = category := by
      show Text.lower (Text.strip category) = category
      rw [h.stripped, h.lowered]
    rw [reading, hcategory, entryOf, htexts, hlowered, eraseDups_of_nodup h.nodup]

/-- Categories that show others are kept as they do, and none occurs twice. -/
theorem isKept_of_isSame {shown categories : List (String × List String)}
    (hsame : List.Forall₂ IsSame shown categories) (hkept : ∀ kept ∈ categories, IsKept kept) :
    (∀ again ∈ shown, IsKept again) ∧ shown.map (·.1) = categories.map (·.1) := by
  induction hsame with
  | nil => exact ⟨nofun, rfl⟩
  | cons hfirst _ ih =>
    obtain ⟨hkeptFirst, hkeptRest⟩ := List.forall_mem_cons.mp hkept
    obtain ⟨hrest, hkeys⟩ := ih hkeptRest
    refine ⟨List.forall_mem_cons.mpr ⟨hkeptFirst.of_isSame hfirst, hrest⟩, ?_⟩
    rw [List.map_cons, List.map_cons, hfirst.1, hkeys]

/-- **What shows an allow-list is read** as the categories that it shows. -/
theorem ofValue_of_shown {shown : List (String × List String)}
    (hkept : ∀ again ∈ shown, IsKept again) (hkeys : (shown.map (·.1)).Nodup) :
    ofValue (.map (shown.map entryOf)) = .ok ⟨shown⟩ := by
  have hentries : ∀ entry ∈ shown.map entryOf, IsEntry entry := by
    intro entry hentry
    obtain ⟨again, hagain, rfl⟩ := List.mem_map.mp hentry
    exact (reading_entryOf (hkept again hagain)).1
  have hread : ∀ again ∈ shown, (reading ∘ entryOf) again = again :=
    fun again hagain => (reading_entryOf (hkept again hagain)).2
  rw [ofValue_of_isEntry hentries, List.map_map, List.map_congr_left hread, List.map_id']
  show Except.ok (AllowList.mk (Table.writeAll shown)) = _
  rw [Table.writeAll_of_nodup hkeys]

/-! ## Looking up -/

/-- The order of the names within the categories does not show in a look-up. -/
theorem categoryFor?_of_isSame {shown categories : List (String × List String)}
    (hsame : List.Forall₂ IsSame shown categories) (name : String) :
    (AllowList.mk shown).categoryFor? name = (AllowList.mk categories).categoryFor? name := by
  unfold categoryFor?
  induction hsame with
  | nil => rfl
  | @cons again kept _ _ hfirst _ ih =>
    have hcontains : again.2.contains (Text.lower name) = kept.2.contains (Text.lower name) := by
      rw [Bool.eq_iff_iff, List.contains_iff_mem, List.contains_iff_mem, hfirst.2.mem_iff]
    dsimp only at ih ⊢
    rw [List.find?_cons, List.find?_cons, hcontains]
    split
    · rw [Option.map_some, Option.map_some, hfirst.1]
    · exact ih

/-- **Nothing changes when an allow-list is built again** from its categories. If an allow-list was
read from some value:

1. each of its categories is not empty and unchanged by stripping and lowering, and each name is not
   empty and unchanged by lowering; no category and no name within a category occurs twice;
2. the map of its categories, to lists of their names, is read as the same allow-list;
3. so is every map that shows the categories in their order and their names in any, up to the order
   of names; and for every text the category it is listed in, the category it belongs to and whether
   it is listed are the same. -/
theorem rebuilding_changes_nothing {listed : Value} {allowed : AllowList}
    (h : ofValue listed = .ok allowed) :
    ((∀ kept ∈ allowed.categories, IsKept kept) ∧ allowed.categoryNames.Nodup) ∧
      ofValue (.map (allowed.categories.map entryOf)) = .ok allowed ∧
      ∀ v, Shows allowed.categories v →
        ∃ rebuilt, ofValue v = .ok rebuilt ∧
          List.Forall₂ IsSame rebuilt.categories allowed.categories ∧
          ∀ name, rebuilt.categoryFor? name = allowed.categoryFor? name ∧
            Category.resolve rebuilt name = Category.resolve allowed name ∧
            rebuilt.isEntitled name = allowed.isEntitled name := by
  obtain ⟨hkept, hkeys⟩ := isKept_of_mem_categories h
  refine ⟨⟨hkept, hkeys⟩, ofValue_of_shown hkept hkeys, ?_⟩
  rintro v ⟨shown, rfl, hsame⟩
  obtain ⟨hshown, hsameKeys⟩ := isKept_of_isSame hsame hkept
  refine ⟨⟨shown⟩, ofValue_of_shown hshown (hsameKeys ▸ hkeys), hsame, ?_⟩
  intro name
  have hcategory := categoryFor?_of_isSame hsame name
  refine ⟨hcategory, ?_, ?_⟩
  · rw [Category.resolve, hcategory, Category.resolve]
  · rw [isEntitled, hcategory, isEntitled]

/-- An allow-list with a dotted capital and a final sigma, whose names come in another order when it
is built again. -/
theorem rebuilding_of_two_names :
    let listed : Value := .map [(.text " İΣ ", .list [.text "B", .text "a", .text "b"])]
    ∃ allowed rebuilt, ofValue listed = .ok allowed ∧
      ofValue (.map [(.text "i\u0307ς", .list [.text "a", .text "b"])]) = .ok rebuilt ∧
      allowed.categoryFor? "A" = some "i\u0307ς" ∧
      rebuilt.categoryFor? "A" = allowed.categoryFor? "A" := by
  intro listed
  have hlisted : ofValue listed = .ok ⟨[("i\u0307ς", ["b", "a"])]⟩ := by rfl
  have hshows : Shows [("i\u0307ς", ["b", "a"])]
      (.map [(.text "i\u0307ς", .list [.text "a", .text "b"])]) :=
    ⟨[("i\u0307ς", ["a", "b"])], rfl, .cons ⟨rfl, List.Perm.swap _ _ _⟩ .nil⟩
  obtain ⟨rebuilt, hrebuilt, -, hsame⟩ := (rebuilding_changes_nothing hlisted).2.2 _ hshows
  exact ⟨_, rebuilt, hlisted, hrebuilt, by decide +kernel, (hsame "A").1⟩

end SecretAccess.AllowList
