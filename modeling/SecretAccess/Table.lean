/-!
# Tables

Entries under keys, in the order in which the keys were first written. Writing to a key that is
present changes its value and moves nothing.
-/

namespace SecretAccess.Table

variable {κ υ : Type} [DecidableEq κ]

/-- Change the value under a key: `change` sees the present value, if any, and a new key goes to
the end. -/
def alter (key : κ) (change : Option υ → υ) : List (κ × υ) → List (κ × υ)
  | [] => [(key, change none)]
  | (k, v) :: rest =>
    if k = key then (k, change (some v)) :: rest else (k, v) :: alter key change rest

/-- Write a value under a key. -/
def put (key : κ) (value : υ) (entries : List (κ × υ)) : List (κ × υ) :=
  alter key (fun _ => value) entries

/-- Add values at the end of the list under a key, which is empty if the key is new. -/
def extend {α : Type} (key : κ) (values : List α) (entries : List (κ × List α)) :
    List (κ × List α) :=
  alter key (fun present => present.getD [] ++ values) entries

/-- The value under a key. -/
def get? (key : κ) (entries : List (κ × υ)) : Option υ :=
  (entries.find? (·.1 = key)).map (·.2)

/-! ## Look-up -/

/-- What is looked up in a list of entries is one of them. -/
theorem mem_of_lookup {α β : Type} [BEq α] [LawfulBEq α] {key : α} {value : β}
    {entries : List (α × β)} (h : entries.lookup key = some value) : (key, value) ∈ entries := by
  obtain ⟨before, behind, rfl, -⟩ := List.lookup_eq_some_iff.mp h
  exact List.mem_append_right _ List.mem_cons_self

/-! ## What is found afterwards -/

/-- Nothing is found in the empty table. -/
@[simp] theorem get?_nil (key : κ) : get? key ([] : List (κ × υ)) = none := rfl

/-- The first entry is found under its key; any other key is looked for behind it. -/
theorem get?_cons (key k : κ) (v : υ) (rest : List (κ × υ)) :
    get? key ((k, v) :: rest) = if k = key then some v else get? key rest := by
  by_cases h : k = key <;> simp [get?, h]

/-- Under the changed key the new value is found. -/
theorem get?_alter_self (key : κ) (change : Option υ → υ) (entries : List (κ × υ)) :
    get? key (alter key change entries) = some (change (get? key entries)) := by
  induction entries with
  | nil => simp [alter, get?_cons]
  | cons entry rest ih =>
    obtain ⟨k, v⟩ := entry
    by_cases h : k = key <;> simp [alter, get?_cons, h, ih]

/-- Under every other key the same is found as before. -/
theorem get?_alter_of_ne {key other : κ} (hne : other ≠ key) (change : Option υ → υ)
    (entries : List (κ × υ)) : get? other (alter key change entries) = get? other entries := by
  induction entries with
  | nil => simp [alter, get?_cons, hne.symm]
  | cons entry rest ih =>
    obtain ⟨k, v⟩ := entry
    by_cases h : k = key
    · subst h
      simp [alter, get?_cons, hne.symm]
    · simp [alter, get?_cons, h, ih]

end SecretAccess.Table
