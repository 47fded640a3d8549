import SecretAccess.Proofs.Resource.Acceptance
import SecretAccess.Proofs.Table

/-!
# The category that a name is found under

The category of a name is looked up in the table that the entries of an allow-list have been written
to. What is found there is said here in terms of the entries themselves.

* Keys that agree without outer blanks and in lower case are one category. It has its place from the
  first of these entries and its names from the last (`AllowList.lastOf?`), and so keeps a name that
  the last one lists (`AllowList.keeps`).
* **`AllowList.category_is_first_that_keeps`**: a name is found under the first category that keeps
  it. It is found at all exactly if some entry lists it that no later entry of its category follows.
  Where no two entries have one category, it is found under the category of the first entry that
  lists it.
* `AllowList.overwritten_names_are_lost`: where two entries have one category, the names of the
  first may be lost.
-/

namespace SecretAccess.AllowList

/-! ## What a category keeps -/

/-- Whether an entry lists a name, in any letter case. -/
def lists (name : String) (entry : Value × Value) : Bool :=
  (textsOf entry.2).any fun listed => Text.lower listed = Text.lower name

/-- The last entry of a category. -/
def lastOf? (entries : List (Value × Value)) (category : String) : Option (Value × Value) :=
  entries.reverse.find? (categoryOfEntry · = category)

/-- Whether a category keeps a name: its last entry lists it. -/
def keeps (entries : List (Value × Value)) (name category : String) : Bool :=
  (lastOf? entries category).any (lists name)

variable {entries : List (Value × Value)} {entry : Value × Value} {name category : String}

/-- The last entry of a category is one that no other entry of the category follows. -/
theorem lastOf?_eq_some_iff :
    lastOf? entries category = some entry ↔
      categoryOfEntry entry = category ∧ ∃ before behind, entries = before ++ entry :: behind ∧
        ∀ later ∈ behind, categoryOfEntry later ≠ category := by
  unfold lastOf?
  rw [List.find?_eq_some_iff_append, decide_eq_true_eq]
  apply and_congr_right
  intro _
  constructor
  · rintro ⟨behind, before, hsplit, hlater⟩
    refine ⟨before.reverse, behind.reverse, ?_, ?_⟩
    · rw [← List.reverse_reverse entries, hsplit, List.reverse_append, List.reverse_cons,
        List.append_assoc, List.singleton_append]
    · intro later hmem
      have hother := hlater later (List.mem_reverse.mp hmem)
      simpa using hother
  · rintro ⟨before, behind, rfl, hlater⟩
    refine ⟨behind.reverse, before.reverse, ?_, ?_⟩
    · rw [List.reverse_append, List.reverse_cons, List.append_assoc, List.singleton_append]
    · intro later hmem
      simpa using hlater later (List.mem_reverse.mp hmem)

/-- A category keeps a name that an entry lists which no other entry of the category follows. -/
theorem keeps_iff :
    keeps entries name category = true ↔
      ∃ before entry behind, entries = before ++ entry :: behind ∧
        categoryOfEntry entry = category ∧ lists name entry = true ∧
        ∀ later ∈ behind, categoryOfEntry later ≠ category := by
  unfold keeps
  rw [Option.any_eq_true]
  constructor
  · rintro ⟨entry, hlast, hlists⟩
    obtain ⟨hcategory, before, behind, hsplit, hlater⟩ := lastOf?_eq_some_iff.mp hlast
    exact ⟨before, entry, behind, hsplit, hcategory, hlists, hlater⟩
  · rintro ⟨before, entry, behind, hsplit, hcategory, hlists, hlater⟩
    exact ⟨entry, lastOf?_eq_some_iff.mpr ⟨hcategory, before, behind, hsplit, hlater⟩, hlists⟩

/-- An entry whose category no other entry has decides what its category keeps. -/
theorem keeps_of_nodup (h : (entries.map categoryOfEntry).Nodup) (hentry : entry ∈ entries) :
    keeps entries name (categoryOfEntry entry) = lists name entry := by
  obtain ⟨before, behind, rfl⟩ := List.append_of_mem hentry
  have hlast : lastOf? (before ++ entry :: behind) (categoryOfEntry entry) = some entry := by
    refine lastOf?_eq_some_iff.mpr ⟨rfl, before, behind, rfl, ?_⟩
    intro later hlater hsame
    rw [List.map_append, List.map_cons, List.nodup_append] at h
    have hbehind := (List.nodup_cons.mp h.2.1).1
    exact hbehind (hsame ▸ List.mem_map_of_mem hlater)
  rw [keeps, hlast, Option.any_some]

/-! ## Looking up -/

/-- A name is among those that an entry is read as exactly if the entry lists it. -/
theorem contains_reading (name : String) (entry : Value × Value) :
    (reading entry).2.contains (Text.lower name) = lists name entry := by
  rw [Bool.eq_iff_iff, List.contains_iff_mem, reading, List.mem_eraseDups, List.mem_map, lists,
    List.any_eq_true]
  simp only [decide_eq_true_eq]

/-- An entry is read as its category. -/
@[simp] theorem reading_fst (entry : Value × Value) : (reading entry).1 = categoryOfEntry entry :=
  rfl

/-- The names of a category are those of its last entry. -/
theorem get?_readings (entries : List (Value × Value)) (category : String) :
    Table.get? category (entries.map reading).reverse =
      (lastOf? entries category).map fun entry => (reading entry).2 := by
  have hcategory : ∀ entry ∈ entries.reverse,
      ((fun read : String × List String => decide (read.1 = category)) ∘ reading) entry =
        decide (categoryOfEntry entry = category) := by
    intro entry _
    rw [Function.comp_apply, reading_fst]
  rw [Table.get?, lastOf?, ← List.map_reverse, List.find?_map, List.find?_congr hcategory,
    Option.map_map]
  rfl

/-- **A look-up** among the entries that have been read finds the first category that keeps the
name. -/
theorem categoryFor?_ofEntries (entries : List (Value × Value)) (name : String) :
    (ofEntries (entries.map reading)).categoryFor? name =
      (entries.find? fun entry => keeps entries name (categoryOfEntry entry)).map
        categoryOfEntry := by
  have hkeeps : ∀ entry, (Table.get? (categoryOfEntry entry) (entries.map reading).reverse).any
      (·.contains (Text.lower name)) = keeps entries name (categoryOfEntry entry) := by
    intro entry
    simp only [get?_readings, Option.any_map, contains_reading, keeps]
  calc (ofEntries (entries.map reading)).categoryFor? name
      = ((Table.writeAll (entries.map reading)).find?
          fun written => written.2.contains (Text.lower name)).map (·.1) := rfl
    _ = ((entries.map reading).find? fun read =>
          (Table.get? read.1 (entries.map reading).reverse).any
            (·.contains (Text.lower name))).map (·.1) := Table.find?_writeAll _ _
    _ = (entries.find? fun entry =>
          (Table.get? (categoryOfEntry entry) (entries.map reading).reverse).any
            (·.contains (Text.lower name))).map categoryOfEntry := by
        simp only [List.find?_map, Option.map_map, Function.comp_def, reading_fst]
    _ = _ := by simp only [hkeeps]

/-- **A name is found under the first category that keeps it.** For every accepted allow-list and
every name:

1. the category of the name is that of the first entry whose category keeps it, and there is none if
   no category does;
2. the name is listed exactly if an entry lists it that no later entry of the same category follows;
3. if no two entries have one category, the category of the name is that of the first entry that
   lists it, and there is none if no entry does. -/
theorem category_is_first_that_keeps {allowed : AllowList}
    (h : ofValue (.map entries) = .ok allowed) (name : String) :
    (allowed.categoryFor? name =
        (entries.find? fun entry => keeps entries name (categoryOfEntry entry)).map
          categoryOfEntry) ∧
      (allowed.isEntitled name = true ↔
        ∃ before entry behind, entries = before ++ entry :: behind ∧ lists name entry = true ∧
          ∀ later ∈ behind, categoryOfEntry later ≠ categoryOfEntry entry) ∧
      ((entries.map categoryOfEntry).Nodup →
        allowed.categoryFor? name = (entries.find? (lists name)).map categoryOfEntry) := by
  have hallowed : allowed = ofEntries (entries.map reading) := by
    rw [ofValue_of_isEntry (isEntry_of_ofValue h), Except.ok.injEq] at h
    exact h.symm
  have hfound := categoryFor?_ofEntries entries name
  rw [← hallowed] at hfound
  refine ⟨hfound, ?_, ?_⟩
  · rw [isEntitled, hfound, Option.isSome_map, List.find?_isSome]
    constructor
    -- the entry that is found shows the category; the one that lists the name may stand behind it
    · rintro ⟨entry, -, hkeeps⟩
      obtain ⟨before, last, behind, hsplit, hcategory, hlists, hlater⟩ := keeps_iff.mp hkeeps
      refine ⟨before, last, behind, hsplit, hlists, ?_⟩
      rw [hcategory]
      exact hlater
    · rintro ⟨before, entry, behind, rfl, hlists, hlater⟩
      exact ⟨entry, List.mem_append_right _ List.mem_cons_self,
        keeps_iff.mpr ⟨before, entry, behind, rfl, rfl, hlists, hlater⟩⟩
  · intro hnodup
    rw [hfound, List.find?_congr fun entry hentry => keeps_of_nodup hnodup hentry]

/-- A name that two categories list is found under the first of them. -/
theorem category_of_name_listed_twice :
    let entries : List (Value × Value) :=
      [(.text " OAuth", .list [.text "A"]), (.text "infra", .list [.text "b", .text "a"])]
    ∃ allowed, ofValue (.map entries) = .ok allowed ∧
      allowed.categoryFor? "a" = some "oauth" ∧ allowed.isEntitled "b" = true := by
  intro entries
  obtain ⟨allowed, hallowed⟩ : ∃ allowed, ofValue (.map entries) = .ok allowed := ⟨_, rfl⟩
  refine ⟨allowed, hallowed, ?_, ?_⟩
  · have hdistinct : (entries.map categoryOfEntry).Nodup := by decide +kernel
    rw [(category_is_first_that_keeps hallowed "a").2.2 hdistinct]
    decide +kernel
  · refine (category_is_first_that_keeps hallowed "b").2.1.mpr ⟨[_], _, [], rfl, ?_, nofun⟩
    decide +kernel

/-- **Names are lost** where a later key is the same category: the first entry lists the name, and
it is found nowhere. -/
theorem overwritten_names_are_lost :
    let entries : List (Value × Value) :=
      [(.text "oauth", .list [.text "a"]), (.text "OAuth", .list [.text "b"])]
    ∃ allowed, ofValue (.map entries) = .ok allowed ∧
      (entries.find? (lists "a")).map categoryOfEntry = some "oauth" ∧
      allowed.categoryFor? "a" = none ∧ allowed.isEntitled "a" = false := by
  intro entries
  refine ⟨_, rfl, ?_, ?_, ?_⟩
  · decide +kernel
  · decide +kernel
  · decide +kernel

end SecretAccess.AllowList
