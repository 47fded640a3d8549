import Mathlib.Data.List.Find
import Mathlib.Data.List.Induction
import SecretAccess.Table

/-!
# Tables that are written entry by entry

A table keeps the place at which a key is first written and the value that is written last. Writing
entries one after another into the empty table (`Table.writeAll`) gives

* the distinct keys, each where it is written first (`Table.keys_writeAll`);
* under each key the value that is written last, which is the one that is found first from behind
  (`Table.get?_writeAll`).

So a search through such a table goes through the keys of the entries in their order, and looks at
the last value of each (`Table.find?_writeAll`). A table whose entries are written again is the same
table (`Table.writeAll_of_nodup`).
-/

namespace SecretAccess

/-! ## Dropping repetitions -/

section distinct

variable {α : Type} [BEq α] [LawfulBEq α]

/-- Selecting before or after repetitions are dropped is the same. -/
theorem eraseDups_filter (p : α → Bool) (l : List α) :
    (l.filter p).eraseDups = l.eraseDups.filter p := by
  match l with
  | [] => rfl
  | first :: rest =>
    have hshorter : (rest.filter fun other => !other == first).length < rest.length + 1 :=
      Nat.lt_succ_of_le (List.length_filter_le _ _)
    have ih := eraseDups_filter p (rest.filter fun other => !other == first)
    rw [List.eraseDups_cons]
    by_cases hfirst : p first = true
    · rw [List.filter_cons_of_pos hfirst, List.filter_cons_of_pos hfirst, List.eraseDups_cons,
        List.filter_filter, ← ih, List.filter_filter]
      simp only [Bool.and_comm]
    · rw [List.filter_cons_of_neg hfirst, List.filter_cons_of_neg hfirst, ← ih,
        List.filter_filter]
      congr 1
      apply List.filter_congr
      intro other _
      by_cases hsame : other = first
      · subst hsame
        simp [hfirst]
      · simp [hsame]
termination_by l.length

/-- No repetition is left once repetitions are dropped. -/
theorem nodup_eraseDups (l : List α) : l.eraseDups.Nodup := by
  match l with
  | [] => exact List.nodup_nil
  | first :: rest =>
    have hshorter : (rest.filter fun other => !other == first).length < rest.length + 1 :=
      Nat.lt_succ_of_le (List.length_filter_le _ _)
    rw [List.eraseDups_cons, List.nodup_cons]
    refine ⟨?_, nodup_eraseDups _⟩
    rw [List.mem_eraseDups]
    simp
termination_by l.length

/-- Where there is no repetition nothing is dropped. -/
theorem eraseDups_of_nodup {l : List α} (h : l.Nodup) : l.eraseDups = l := by
  induction l with
  | nil => rfl
  | cons first rest ih =>
    obtain ⟨hfirst, hrest⟩ := List.nodup_cons.mp h
    have hkept : (rest.filter fun other => !other == first) = rest := by
      rw [List.filter_eq_self]
      intro other hother
      rw [Bool.not_eq_true', beq_eq_false_iff_ne]
      rintro rfl
      exact hfirst hother
    rw [List.eraseDups_cons, hkept, ih hrest]

/-- Dropping repetitions leaves something of anything. -/
theorem eraseDups_ne_nil_iff {l : List α} : l.eraseDups ≠ [] ↔ l ≠ [] := by
  rw [not_iff_not, List.eq_nil_iff_forall_not_mem, List.eq_nil_iff_forall_not_mem]
  simp only [List.mem_eraseDups]

/-- What is searched for is found first among the distinct elements, too. -/
theorem find?_eraseDups (p : α → Bool) (l : List α) : l.eraseDups.find? p = l.find? p := by
  rw [← List.head?_filter, ← List.head?_filter, ← eraseDups_filter]
  rcases l.filter p with _ | ⟨first, rest⟩
  · rfl
  · rw [List.eraseDups_cons, List.head?_cons, List.head?_cons]

end distinct

namespace Table

variable {κ υ : Type} [DecidableEq κ] {entries : List (κ × υ)} {entry : κ × υ} {key : κ}

/-! ## Keys -/

/-- Changing the value under a key adds the key at the end if it is new. -/
theorem keys_alter (change : Option υ → υ) :
    (alter key change entries).map (·.1) =
      if key ∈ entries.map (·.1) then entries.map (·.1) else entries.map (·.1) ++ [key] := by
  induction entries with
  | nil => rfl
  | cons first rest ih =>
    rw [alter, List.map_cons]
    by_cases hkey : first.1 = key
    · rw [if_pos hkey, if_pos (List.mem_cons.mpr (.inl hkey.symm))]
      rfl
    · rw [if_neg hkey, List.map_cons, ih]
      by_cases hmem : key ∈ rest.map (·.1)
      · rw [if_pos hmem, if_pos (List.mem_cons_of_mem _ hmem)]
      · rw [if_neg hmem, if_neg (List.not_mem_cons_of_ne_of_not_mem (Ne.symm hkey) hmem)]
        rfl

/-- A value under a new key goes to the end. -/
theorem alter_of_not_mem (change : Option υ → υ) (h : key ∉ entries.map (·.1)) :
    alter key change entries = entries ++ [(key, change none)] := by
  induction entries with
  | nil => rfl
  | cons first rest ih =>
    rw [List.map_cons, List.mem_cons, not_or] at h
    rw [alter, if_neg (Ne.symm h.1), ih h.2, List.cons_append]

/-- An entry of a table that a value is written to is this one, or was there before. -/
theorem mem_put {value : υ} (h : entry ∈ put key value entries) :
    entry = (key, value) ∨ entry ∈ entries := by
  unfold put at h
  induction entries with
  | nil => exact .inl (List.mem_singleton.mp h)
  | cons first rest ih =>
    rw [alter] at h
    split_ifs at h with hkey
    · rcases List.mem_cons.mp h with rfl | h
      · exact .inl (by rw [← hkey])
      · exact .inr (List.mem_cons_of_mem _ h)
    · rcases List.mem_cons.mp h with rfl | h
      · exact .inr List.mem_cons_self
      · exact (ih h).imp_right (List.mem_cons_of_mem _)

/-- An entry of a table with distinct keys is what is found under its key. -/
theorem get?_of_mem (h : (entries.map (·.1)).Nodup) (hentry : entry ∈ entries) :
    get? entry.1 entries = some entry.2 := by
  induction entries with
  | nil => cases hentry
  | cons first rest ih =>
    rw [List.map_cons, List.nodup_cons] at h
    rw [get?_cons]
    rcases List.mem_cons.mp hentry with rfl | hentry
    · rw [if_pos rfl]
    · rw [if_neg, ih h.2 hentry]
      intro hsame
      exact h.1 (hsame ▸ List.mem_map_of_mem hentry)

/-! ## Writing entry by entry -/

/-- The table of entries that are written one after another. -/
def writeAll (entries : List (κ × υ)) : List (κ × υ) :=
  entries.foldl (fun acc entry => put entry.1 entry.2 acc) []

/-- What is written last comes into the table of all that is written before. -/
theorem writeAll_append_singleton (entries : List (κ × υ)) (last : κ × υ) :
    writeAll (entries ++ [last]) = put last.1 last.2 (writeAll entries) := by
  unfold writeAll
  rw [List.foldl_append]
  rfl

/-- **The keys** are those of the entries, each where it is written first. -/
theorem keys_writeAll (entries : List (κ × υ)) :
    (writeAll entries).map (·.1) = (entries.map (·.1)).eraseDups := by
  -- from behind: the last entry is written to the table of all entries before it
  induction entries using List.reverseRecOn with
  | nil => rfl
  | append_singleton entries last ih =>
    rw [writeAll_append_singleton, put, keys_alter, ih, List.map_append, List.eraseDups_append]
    by_cases hkey : last.1 ∈ entries.map (·.1)
    · have hnone : [last.1].removeAll (entries.map (·.1)) = [] := by simp [List.removeAll, hkey]
      rw [if_pos (List.mem_eraseDups.mpr hkey), List.map_singleton, hnone]
      exact (List.append_nil _).symm
    · have hall : [last.1].removeAll (entries.map (·.1)) = [last.1] := by
        simp [List.removeAll, hkey]
      rw [if_neg (mt List.mem_eraseDups.mp hkey), List.map_singleton, hall]
      rfl

/-- A table has distinct keys. -/
theorem nodup_keys_writeAll (entries : List (κ × υ)) :
    ((writeAll entries).map (·.1)).Nodup := by
  rw [keys_writeAll]
  exact nodup_eraseDups _

/-- What is in the table was written. -/
theorem mem_of_mem_writeAll (h : entry ∈ writeAll entries) : entry ∈ entries := by
  induction entries using List.reverseRecOn with
  | nil => cases h
  | append_singleton entries last ih =>
    rw [writeAll_append_singleton] at h
    rcases mem_put h with rfl | h
    · exact List.mem_append_right _ (List.mem_singleton.mpr rfl)
    · exact List.mem_append_left _ (ih h)

/-- **Entries with distinct keys** are the table themselves. -/
theorem writeAll_of_nodup (h : (entries.map (·.1)).Nodup) : writeAll entries = entries := by
  induction entries using List.reverseRecOn with
  | nil => rfl
  | append_singleton entries last ih =>
    rw [List.map_append, List.map_singleton, List.nodup_append] at h
    obtain ⟨hbefore, -, hdistinct⟩ := h
    have hnew : last.1 ∉ entries.map (·.1) :=
      fun hmem => hdistinct last.1 hmem last.1 (List.mem_singleton.mpr rfl) rfl
    rw [writeAll_append_singleton, ih hbefore, put, alter_of_not_mem _ hnew]

/-- **The value under a key** is the one that is written last. -/
theorem get?_writeAll (key : κ) (entries : List (κ × υ)) :
    get? key (writeAll entries) = get? key entries.reverse := by
  induction entries using List.reverseRecOn with
  | nil => rfl
  | append_singleton entries last ih =>
    rw [writeAll_append_singleton, List.reverse_append, List.reverse_singleton,
      List.singleton_append, get?_cons, put]
    by_cases hkey : last.1 = key
    · rw [if_pos hkey, hkey, get?_alter_self]
    · rw [if_neg hkey, get?_alter_of_ne (Ne.symm hkey), ih]

/-- **A search** through the table goes through the keys in the order of the entries and looks at
the value that is written last under each. -/
theorem find?_writeAll (p : κ × υ → Bool) (entries : List (κ × υ)) :
    ((writeAll entries).find? p).map (·.1) =
      (entries.find? fun entry => (get? entry.1 entries.reverse).any fun value =>
        p (entry.1, value)).map (·.1) := by
  -- with distinct keys an entry is known by its key, so the search can be one among keys
  let suits : κ → Bool := fun key => (get? key (writeAll entries)).any fun value => p (key, value)
  have hnodup := nodup_keys_writeAll entries
  have hsuits : ∀ entry ∈ writeAll entries, p entry = suits entry.1 := by
    intro entry hentry
    simp only [suits, get?_of_mem hnodup hentry, Option.any_some]
  calc ((writeAll entries).find? p).map (·.1)
      = ((writeAll entries).find? (suits ∘ (·.1))).map (·.1) := by rw [List.find?_congr hsuits]; rfl
    _ = ((writeAll entries).map (·.1)).find? suits := List.find?_map.symm
    _ = (entries.map (·.1)).find? suits := by rw [keys_writeAll, find?_eraseDups]
    _ = (entries.find? (suits ∘ (·.1))).map (·.1) := List.find?_map
    _ = _ := by simp only [suits, Function.comp_def, get?_writeAll]

end Table

end SecretAccess
