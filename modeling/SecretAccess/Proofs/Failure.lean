import Mathlib.Data.List.Basic
import SecretAccess.Fault

/-!
# How operations fail

What comes of operations one after another, and of one operation at every element of a list.

* `FailsByConfig`: nothing but a refused configuration can go wrong; of two operations one after
  another this holds if it holds of each.
* `mapM_eq_error_iff`: an operation at every element of a list fails where the first element fails
  (`List.mapM` in `Except`), and otherwise it gives the results of all elements.
-/

namespace SecretAccess

/-! ## Failing by a refused configuration -/

/-- Whether nothing but a refused configuration can go wrong. -/
def FailsByConfig {α : Type} (result : Except Fault α) : Prop :=
  ∀ fault, result = .error fault → ∃ cause, fault = .config cause

namespace FailsByConfig

variable {α β : Type}

/-- A value is no failure. -/
theorem ok (a : α) : FailsByConfig (.ok a) := nofun

/-- A refused configuration is one. -/
theorem config (cause : ConfigFault) : FailsByConfig (.error (.config cause) : Except Fault α) := by
  rintro fault ⟨⟩
  exact ⟨cause, rfl⟩

/-- Two operations one after another fail by a refused configuration if each does. -/
theorem bind {result : Except Fault α} {next : α → Except Fault β} (h : FailsByConfig result)
    (hnext : ∀ a, result = .ok a → FailsByConfig (next a)) : FailsByConfig (result >>= next) := by
  rcases result with fault | a
  · obtain ⟨cause, rfl⟩ := h fault rfl
    exact config cause
  · exact hnext a rfl

end FailsByConfig

/-! ## One operation after another -/

section chain

variable {α β : Type} {result : Except Fault α} {next : α → Except Fault β} {a : α} {fault : Fault}

/-- After a first operation that succeeds comes the second. -/
theorem bind_of_eq_ok (h : result = .ok a) : result >>= next = next a := by
  rw [h]
  rfl

/-- A first operation that fails is the last. -/
theorem bind_of_eq_error (h : result = .error fault) : result >>= next = .error fault := by
  rw [h]
  rfl

/-- What comes out of two operations one after another comes out of the second. -/
theorem exists_of_bind_eq_ok {b : β} (h : result >>= next = .ok b) :
    ∃ a, result = .ok a ∧ next a = .ok b := by
  rcases result with fault | a
  · cases h
  · exact ⟨a, rfl, h⟩

/-- Two operations one after another succeed if each does. -/
theorem bind_eq_ok_iff {b : β} :
    result >>= next = .ok b ↔ ∃ a, result = .ok a ∧ next a = .ok b := by
  refine ⟨exists_of_bind_eq_ok, ?_⟩
  rintro ⟨a, ha, hb⟩
  rw [bind_of_eq_ok ha, hb]

/-- Two operations one after another fail if the first does, or if the second does with what the
first gives. -/
theorem bind_eq_error_iff :
    result >>= next = .error fault ↔
      result = .error fault ∨ ∃ a, result = .ok a ∧ next a = .error fault := by
  constructor
  · intro h
    rcases result with other | a
    · cases h
      exact .inl rfl
    · exact .inr ⟨a, rfl, h⟩
  · rintro (h | ⟨a, ha, h⟩)
    · exact bind_of_eq_error h
    · rw [bind_of_eq_ok ha, h]

/-- With a second operation that cannot fail, it is the first that fails. -/
theorem bind_ok_eq_error_iff {g : α → β} :
    (result >>= fun a => .ok (g a)) = .error fault ↔ result = .error fault := by
  rw [bind_eq_error_iff, or_iff_left]
  rintro ⟨a, -, h⟩
  cases h

end chain

/-! ## One operation at every element -/

section elements

variable {α β ε : Type} {f : α → Except ε β}

/-- The results for a longer list are that of the first element and those of the others. -/
theorem mapM_cons_eq_ok_iff {first : α} {rest : List α} {results : List β} :
    (first :: rest).mapM f = .ok results ↔
      ∃ result others, f first = .ok result ∧ rest.mapM f = .ok others ∧
        results = result :: others := by
  rw [List.mapM_cons]
  rcases f first with fault | result
  · constructor
    · nofun
    · rintro ⟨_, _, h, -⟩
      cases h
  · rcases rest.mapM f with fault | others
    · constructor
      · nofun
      · rintro ⟨_, _, -, h, -⟩
        cases h
    · constructor
      · rintro ⟨⟩
        exact ⟨result, others, rfl, rfl, rfl⟩
      · rintro ⟨_, _, ⟨⟩, ⟨⟩, rfl⟩
        rfl

/-- A longer list fails where its first element fails, or where the others do behind a first element
that does not. -/
theorem mapM_cons_eq_error_iff {first : α} {rest : List α} {fault : ε} :
    (first :: rest).mapM f = .error fault ↔
      f first = .error fault ∨ (∃ result, f first = .ok result) ∧ rest.mapM f = .error fault := by
  rw [List.mapM_cons]
  rcases f first with other | result
  · constructor
    · rintro ⟨⟩
      exact .inl rfl
    · rintro (⟨⟨⟩⟩ | ⟨⟨_, h⟩, -⟩)
      · rfl
      · cases h
  · rcases rest.mapM f with other | others
    · constructor
      · rintro ⟨⟩
        exact .inr ⟨⟨result, rfl⟩, rfl⟩
      · rintro (h | ⟨-, ⟨⟩⟩)
        · cases h
        · rfl
    · constructor
      · nofun
      · rintro (h | ⟨-, h⟩)
        · cases h
        · cases h

/-- Each result of a list of readings that all succeed is the result of one of them. -/
theorem exists_of_mem_mapM {entries : List α} {reads : List β} (h : entries.mapM f = .ok reads)
    {read : β} (hread : read ∈ reads) : ∃ entry ∈ entries, f entry = .ok read := by
  induction entries generalizing reads with
  | nil =>
    rw [List.mapM_nil] at h
    cases h
    cases hread
  | cons entry rest ih =>
    obtain ⟨first, more, hfirst, hrest, rfl⟩ := mapM_cons_eq_ok_iff.mp h
    rcases List.mem_cons.mp hread with rfl | hread
    · exact ⟨entry, List.mem_cons_self, hfirst⟩
    · obtain ⟨other, hmem, hother⟩ := ih hrest hread
      exact ⟨other, List.mem_cons_of_mem _ hmem, hother⟩

/-- The results of a list of readings that all succeed are all results that there are. -/
theorem eq_filterMap_of_mapM {entries : List α} {reads : List β} (h : entries.mapM f = .ok reads) :
    reads = entries.filterMap fun entry => (f entry).toOption := by
  induction entries generalizing reads with
  | nil =>
    rw [List.mapM_nil] at h
    cases h
    rfl
  | cons entry rest ih =>
    obtain ⟨first, more, hfirst, hrest, rfl⟩ := mapM_cons_eq_ok_iff.mp h
    have hread : (f entry).toOption = some first := by
      rw [hfirst]
      rfl
    rw [List.filterMap_cons, ← ih hrest]
    simp only [hread]

/-- If each element gives a result of its own, these are the results of the list. -/
theorem mapM_eq_ok_map {entries : List α} {g : α → β}
    (h : ∀ entry ∈ entries, f entry = .ok (g entry)) :
    entries.mapM f = .ok (entries.map g) := by
  induction entries with
  | nil => rfl
  | cons first rest ih =>
    rw [List.forall_mem_cons] at h
    exact mapM_cons_eq_ok_iff.mpr ⟨g first, rest.map g, h.1, ih h.2, rfl⟩

/-- A list succeeds exactly if each element does. -/
theorem exists_mapM_eq_ok_iff {entries : List α} :
    (∃ reads, entries.mapM f = .ok reads) ↔ ∀ entry ∈ entries, ∃ read, f entry = .ok read := by
  induction entries with
  | nil => exact ⟨fun _ => nofun, fun _ => ⟨[], rfl⟩⟩
  | cons first rest ih =>
    rw [List.forall_mem_cons, ← ih]
    constructor
    · rintro ⟨_, h⟩
      obtain ⟨read, reads, hfirst, hrest, -⟩ := mapM_cons_eq_ok_iff.mp h
      exact ⟨⟨read, hfirst⟩, ⟨reads, hrest⟩⟩
    · rintro ⟨⟨read, hfirst⟩, ⟨reads, hrest⟩⟩
      exact ⟨read :: reads, mapM_cons_eq_ok_iff.mpr ⟨read, reads, hfirst, hrest, rfl⟩⟩

/-- **A list fails as its first element that fails.** -/
theorem mapM_eq_error_iff {entries : List α} {fault : ε} :
    entries.mapM f = .error fault ↔
      ∃ before entry behind, entries = before ++ entry :: behind ∧
        (∀ earlier ∈ before, ∃ read, f earlier = .ok read) ∧ f entry = .error fault := by
  induction entries with
  | nil =>
    constructor
    · nofun
    · rintro ⟨before, entry, behind, h, -⟩
      exact absurd h.symm (List.append_ne_nil_of_right_ne_nil _ (List.cons_ne_nil _ _))
  | cons first rest ih =>
    rw [mapM_cons_eq_error_iff, ih]
    constructor
    · rintro (hfirst | ⟨hfirst, before, entry, behind, rfl, hbefore, hentry⟩)
      · exact ⟨[], first, rest, rfl, nofun, hfirst⟩
      · exact ⟨first :: before, entry, behind, rfl,
          List.forall_mem_cons.mpr ⟨hfirst, hbefore⟩, hentry⟩
    · rintro ⟨before, entry, behind, hsplit, hbefore, hentry⟩
      -- the entry that fails is the first of the list, or the first entry stands before it
      rcases List.cons_eq_append_iff.mp hsplit with ⟨rfl, hcons⟩ | ⟨earlier, rfl, rfl⟩
      · cases hcons
        exact .inl hentry
      · rw [List.forall_mem_cons] at hbefore
        exact .inr ⟨hbefore.1, earlier, entry, behind, rfl, hbefore.2, hentry⟩

end elements

end SecretAccess
