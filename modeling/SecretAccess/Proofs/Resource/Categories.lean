import SecretAccess.Proofs.Failure
import SecretAccess.Proofs.Table
import SecretAccess.Proofs.Text.Trimmed
import SecretAccess.Service.Basic

/-!
# The names of categories

Whatever an allow-list is read from, each of its categories is the stripped and lowered text of some
key that is not blank (`AllowList.exists_key_of_mem_categoryNames`): writing the entries one after
another makes no new category. So

* **every category that a service knows is in lower case and not empty**
  (`Service.isLowered_of_mem_knownCategories`), the built-in ones included;
* **the category of every secret is one of them** (`Service.categoryOf_mem_knownCategories`).
-/

namespace SecretAccess

/-! ## Reading an allow-list -/

namespace AllowList

/-- The categories of written entries are those of the entries, each where it is written first. -/
theorem categoryNames_ofEntries (entries : List (String × List String)) :
    (ofEntries entries).categoryNames = (entries.map (·.1)).eraseDups :=
  Table.keys_writeAll entries

/-- A key that may be a category is a text that is not blank. -/
theorem categoryOfKey_eq_ok_iff {key : Value} {category : String} :
    categoryOfKey key = .ok category ↔
      key = .text category ∧ Text.isBlankText category = false := by
  unfold categoryOfKey
  cases key <;> simp only [Value.text?, Option.filter_none, Option.filter_some, reduceCtorEq,
    false_and, Value.text.injEq]
  case text s =>
    by_cases hblank : Text.isBlankText s = true
    · simp only [hblank, Bool.not_true, Bool.false_eq_true, if_false, reduceCtorEq, false_iff]
      rintro ⟨rfl, h⟩
      rw [hblank] at h
      cases h
    · simp only [hblank, Bool.not_false, if_true, Except.ok.injEq]
      constructor
      · rintro rfl
        exact ⟨rfl, Bool.not_eq_true _ ▸ hblank⟩
      · exact And.left

/-- A category that is read is the lower case of the stripped text of its key. -/
theorem exists_key_of_readEntry {entry : Value × Value} {read : String × List String}
    (h : readEntry entry = .ok read) :
    ∃ key, entry.1 = .text key ∧ Text.isBlankText key = false ∧
      read.1 = Text.lower (Text.strip key) := by
  obtain ⟨key, hkey, h⟩ := exists_of_bind_eq_ok h
  obtain ⟨names, -, h⟩ := exists_of_bind_eq_ok h
  obtain ⟨htext, hblank⟩ := categoryOfKey_eq_ok_iff.mp hkey
  have hread : (Text.lower (Text.strip key), names) = read := Except.ok.inj h
  exact ⟨key, htext, hblank, by rw [← hread]⟩

/-- Each category of an allow-list is the lower case of the stripped text of some key of what the
list was read from, and that key is not blank. -/
theorem exists_key_of_mem_categoryNames {entries : List (Value × Value)} {allowed : AllowList}
    (h : ofValue (.map entries) = .ok allowed) {category : String}
    (hcategory : category ∈ allowed.categoryNames) :
    ∃ key names, (Value.text key, names) ∈ entries ∧ Text.isBlankText key = false ∧
      category = Text.lower (Text.strip key) := by
  obtain ⟨reads, hreads, h⟩ := exists_of_bind_eq_ok h
  cases h
  rw [categoryNames_ofEntries, List.mem_eraseDups] at hcategory
  obtain ⟨read, hread, rfl⟩ := List.mem_map.mp hcategory
  obtain ⟨⟨name, names⟩, hmem, hentry⟩ := exists_of_mem_mapM hreads hread
  obtain ⟨key, hkey, hblank, hlower⟩ := exists_key_of_readEntry hentry
  cases hkey
  exact ⟨key, names, hmem, hblank, hlower⟩

/-- Only a map is read as an allow-list. -/
theorem exists_entries_of_ofValue {v : Value} {allowed : AllowList} (h : ofValue v = .ok allowed) :
    ∃ entries, v = .map entries := by
  cases v <;> first | exact ⟨_, rfl⟩ | cases h

/-- The category that lists a secret is a category of the list. -/
theorem mem_categoryNames_of_categoryFor? {allowed : AllowList} {name category : String}
    (h : allowed.categoryFor? name = some category) : category ∈ allowed.categoryNames := by
  unfold categoryFor? at h
  obtain ⟨entry, hentry, rfl⟩ := Option.map_eq_some_iff.mp h
  exact List.mem_map_of_mem (List.mem_of_find?_eq_some hentry)

end AllowList

/-! ## The categories of a service -/

/-- A convention puts a secret into a built-in category. -/
theorem Category.mem_builtinCategories_of_infer? {name category : String}
    (h : Category.infer? name = some category) : category ∈ Scope.builtinCategories := by
  unfold Category.infer? at h
  obtain ⟨entry, hentry, rfl⟩ := Option.map_eq_some_iff.mp h
  have hall : ∀ entry ∈ Category.conventions, entry.2 ∈ Scope.builtinCategories := by decide
  exact hall entry (List.mem_of_find?_eq_some hentry)

namespace Service

/-- The category of a secret is one that the service knows. -/
theorem categoryOf_mem_knownCategories (service : Service) (name : String) :
    service.categoryOf name ∈ service.knownCategories := by
  unfold categoryOf Category.resolve knownCategories
  rw [List.mem_append]
  rcases hlisted : service.allowed.categoryFor? name with _ | category
  · right
    rw [Option.none_or]
    rcases hinferred : Category.infer? name with _ | category
    · decide
    · exact Category.mem_builtinCategories_of_infer? hinferred
  · exact Or.inl (AllowList.mem_categoryNames_of_categoryFor? hlisted)

/-- A category that a service knows is in lower case and not empty. -/
theorem isLowered_of_mem_knownCategories {service : Service} {listed : Value}
    (h : AllowList.ofValue listed = .ok service.allowed) {category : String}
    (hcategory : category ∈ service.knownCategories) :
    Text.lower category = category ∧ category ≠ "" := by
  unfold knownCategories at hcategory
  rcases List.mem_append.mp hcategory with hcategory | hcategory
  · obtain ⟨entries, rfl⟩ := AllowList.exists_entries_of_ofValue h
    obtain ⟨key, names, -, hblank, rfl⟩ :=
      AllowList.exists_key_of_mem_categoryNames h hcategory
    refine ⟨Text.lower_lower _, ?_⟩
    rw [Ne, Text.lower_eq_empty_iff, Text.strip_eq_empty_iff, hblank]
    exact Bool.false_ne_true
  · have hall : ∀ category ∈ Scope.builtinCategories,
        Text.lower category = category ∧ category ≠ "" := by decide +kernel
    exact hall category hcategory

end Service

end SecretAccess
