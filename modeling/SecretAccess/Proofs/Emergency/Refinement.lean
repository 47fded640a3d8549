import SecretAccess.Proofs.Emergency.Replay
import SecretAccess.Table

/-!
# A tracker on a shared store refines the tracker in memory

The two kinds of tracker are asked the same questions. A run of *presentations*, each of a nonce at
a clock reading and with a remaining time that may be unknown, meets a tracker on an empty store and
the empty tracker in memory side by side. Times are whole numbers of either sign, and clock readings
need not ascend.

* **The invariant** (`Mirrors`): the store has a key for exactly the fingerprints in memory, where a
  key that has lapsed is still a key.
* **The step** (`Mirrors.present`): while that holds, the shared tracker accepts a nonce exactly if
  its key is not live, and the tracker in memory exactly if its fingerprint is new. Afterwards it
  still holds, also if the key had lapsed and is claimed again.
* **`shared_store_refines_memory`**: what the shared tracker refuses, the tracker in memory refuses
  too; and as long as no key has lapsed, the two give the same answers.
-/

namespace SecretAccess

/-! ## Presentations -/

/-- A nonce as it is presented to a tracker. -/
structure Presentation where
  /-- What the clock reads. -/
  clock : Int
  /-- The nonce. -/
  nonce : String
  /-- For how many seconds its grant is still valid, if that is known. -/
  remaining : Option Int

namespace Tracker

/-- What the presentation of a nonce comes to. -/
def present (tracker : Tracker) (presentation : Presentation) : Step Bool :=
  tracker.consume (.int presentation.clock) presentation.nonce
    (presentation.remaining.map .int)

/-- The fingerprints that a tracker holds in memory. -/
def recorded : Tracker → List String
  | .memory used => used
  | .shared .. => []

/-- The keys in the store of a tracker, whether they are live or have lapsed. -/
def keys : Tracker → List String
  | .memory _ => []
  | .shared _ store => store.expiries.map (·.1)

/-- Whether a key in the store of a tracker is live. -/
def isLive (clock : Int) (key : String) : Tracker → Bool
  | .memory _ => false
  | .shared _ store => store.isLive (.int clock) key

end Tracker

/-- One presentation to a shared tracker and to one in memory. -/
structure Encounter where
  /-- The shared tracker before the presentation. -/
  shared : Tracker
  /-- The tracker in memory before the presentation. -/
  memory : Tracker
  /-- What is presented. -/
  presentation : Presentation

namespace Encounter

/-- What the presentation comes to with the shared tracker. -/
def sharedStep (e : Encounter) : Step Bool := e.shared.present e.presentation

/-- What the presentation comes to with the tracker in memory. -/
def memoryStep (e : Encounter) : Step Bool := e.memory.present e.presentation

end Encounter

/-- The encounters of a run that starts with the given trackers. -/
def encounters : Tracker → Tracker → List Presentation → List Encounter
  | _, _, [] => []
  | shared, memory, presentation :: rest =>
    ⟨shared, memory, presentation⟩ ::
      encounters (shared.present presentation).tracker (memory.present presentation).tracker rest

namespace Emergency

/-! ## One presentation -/

/-- A key is live only if the store has it. -/
theorem mem_keys_of_isLive {store : Store} {clock : Number} {key : String}
    (h : store.isLive clock key = true) : key ∈ store.expiries.map (·.1) := by
  unfold Store.isLive at h
  split at h
  · rename_i expiry hlookup
    exact List.mem_map_of_mem (Table.mem_of_lookup hlookup)
  · cases h

/-- For how long a nonce is recorded is a whole number, if the retention is one. -/
theorem exists_recordingTime (retention : Int) (remaining : Option Int) :
    ∃ lifetime : Int,
      Tracker.recordingTime (.int retention) (remaining.map .int) = .ok (.int lifetime) := by
  rcases remaining with _ | remaining
  · exact ⟨retention, rfl⟩
  · exact ⟨_, recordingTime_int retention remaining⟩

/-- **What a tracker on a store answers**: whether the key of the nonce is not live. Afterwards the
store has that key, and no other key that it did not have before. -/
theorem present_shared {store : Store} (hscript : store.script = []) (stem : String)
    (retention : Int) (connection : Option Connection) (presentation : Presentation) :
    ∃ after,
      (Tracker.shared ⟨stem, .int retention, connection⟩ store).present presentation =
        ⟨.ok (!store.isLive (.int presentation.clock)
            (stem ++ Nonce.fingerprintOf presentation.nonce)),
          .shared ⟨stem, .int retention, connection⟩ after, []⟩ ∧
      after.script = [] ∧
      ∀ key, key ∈ after.expiries.map (·.1) ↔
        key = stem ++ Nonce.fingerprintOf presentation.nonce ∨ key ∈ store.expiries.map (·.1) := by
  obtain ⟨lifetime, htime⟩ := exists_recordingTime retention presentation.remaining
  by_cases hlive : store.isLive (.int presentation.clock)
      (stem ++ Nonce.fingerprintOf presentation.nonce) = true
  · have hkey := mem_keys_of_isLive hlive
    rw [hlive]
    unfold Store.isLive at hlive
    unfold Tracker.present Tracker.consume Store.claim Store.claimByRule Store.isLive
    simp only [htime, hscript, Tracker.claimOf, hlive, Bool.and_self, if_true]
    refine ⟨_, rfl, rfl, ?_⟩
    intro key
    constructor
    · exact Or.inr
    · rintro (rfl | hmem)
      · exact hkey
      · exact hmem
  · -- the key is written in front, be it new or lapsed with its old entry still behind
    rw [Bool.not_eq_true] at hlive
    rw [hlive]
    unfold Store.isLive at hlive
    unfold Tracker.present Tracker.consume Store.claim Store.claimByRule Store.isLive
    simp only [htime, hscript, Tracker.claimOf, hlive, Bool.and_false, Number.int_add_int,
      Bool.false_eq_true, if_false]
    refine ⟨_, rfl, rfl, ?_⟩
    intro key
    rw [List.map_cons, List.mem_cons]

/-- **What a tracker in memory answers**: whether the fingerprint of the nonce is new. Afterwards it
holds that fingerprint, and no other that it did not hold before. -/
theorem present_memory (used : List String) (presentation : Presentation) :
    ∃ later,
      (Tracker.memory used).present presentation =
        ⟨.ok (!decide (Nonce.fingerprintOf presentation.nonce ∈ used)), .memory later, []⟩ ∧
      ∀ fingerprint, fingerprint ∈ later ↔
        fingerprint = Nonce.fingerprintOf presentation.nonce ∨ fingerprint ∈ used := by
  by_cases hmem : Nonce.fingerprintOf presentation.nonce ∈ used
  · rw [decide_eq_true hmem]
    refine ⟨used, consume_memory_of_mem hmem, ?_⟩
    intro fingerprint
    constructor
    · exact Or.inr
    · rintro (rfl | hknown)
      · exact hmem
      · exact hknown
  · rw [decide_eq_false hmem]
    refine ⟨_, consume_memory_of_not_mem hmem, ?_⟩
    intro fingerprint
    rw [List.mem_append, List.mem_singleton, or_comm]

/-! ## The invariant -/

/-- Whether a store has a key for exactly the fingerprints in memory, and answers by its rule. -/
structure Mirrors (stem : String) (store : Store) (used : List String) : Prop where
  /-- No answer is arranged. -/
  script : store.script = []
  /-- The keys are those of the fingerprints. -/
  keys : ∀ key, key ∈ store.expiries.map (·.1) ↔ ∃ fingerprint ∈ used, key = stem ++ fingerprint

namespace Mirrors

variable {stem : String} {store : Store} {used : List String}

/-- The empty store mirrors the empty memory. -/
theorem empty (stem : String) : Mirrors stem .empty [] := ⟨rfl, by simp [Store.empty]⟩

/-- The store has the key of a fingerprint exactly if the fingerprint is in memory. -/
theorem key_mem_iff (h : Mirrors stem store used) {fingerprint : String} :
    stem ++ fingerprint ∈ store.expiries.map (·.1) ↔ fingerprint ∈ used := by
  rw [h.keys]
  constructor
  · rintro ⟨other, hother, hsame⟩
    rw [String.append_right_inj] at hsame
    rwa [hsame]
  · intro hmem
    exact ⟨fingerprint, hmem, rfl⟩

/-- A key that comes to the store with its fingerprint in memory is mirrored. -/
theorem of_added (h : Mirrors stem store used) {after : Store} {later : List String}
    {added : String} (hscript : after.script = [])
    (hafter : ∀ key, key ∈ after.expiries.map (·.1) ↔
      key = stem ++ added ∨ key ∈ store.expiries.map (·.1))
    (hlater : ∀ fingerprint, fingerprint ∈ later ↔ fingerprint = added ∨ fingerprint ∈ used) :
    Mirrors stem after later := by
  refine ⟨hscript, ?_⟩
  intro key
  rw [hafter, h.keys]
  constructor
  · rintro (rfl | ⟨fingerprint, hmem, rfl⟩)
    · exact ⟨added, (hlater _).mpr (Or.inl rfl), rfl⟩
    · exact ⟨fingerprint, (hlater _).mpr (Or.inr hmem), rfl⟩
  · rintro ⟨fingerprint, hmem, rfl⟩
    rcases (hlater _).mp hmem with rfl | hmem
    · exact Or.inl rfl
    · exact Or.inr ⟨fingerprint, hmem, rfl⟩

/-- **One presentation to both trackers** is answered by what the one has live and the other holds,
and the store still mirrors the memory. -/
theorem present (h : Mirrors stem store used) (retention : Int) (connection : Option Connection)
    (presentation : Presentation) :
    ∃ after later,
      (Tracker.shared ⟨stem, .int retention, connection⟩ store).present presentation =
        ⟨.ok (!store.isLive (.int presentation.clock)
            (stem ++ Nonce.fingerprintOf presentation.nonce)),
          .shared ⟨stem, .int retention, connection⟩ after, []⟩ ∧
      (Tracker.memory used).present presentation =
        ⟨.ok (!decide (Nonce.fingerprintOf presentation.nonce ∈ used)), .memory later, []⟩ ∧
      Mirrors stem after later := by
  obtain ⟨after, hshared, hscript, hafter⟩ :=
    present_shared h.script stem retention connection presentation
  obtain ⟨later, hmemory, hlater⟩ := present_memory used presentation
  exact ⟨after, later, hshared, hmemory, h.of_added hscript hafter hlater⟩

end Mirrors

/-! ## Whole runs -/

/-- Whether an encounter is one of a tracker on a store and of a tracker in memory that the store
mirrors. -/
def IsMirrored (stem : String) (retention : Int) (connection : Option Connection)
    (e : Encounter) : Prop :=
  ∃ store used, e.shared = .shared ⟨stem, .int retention, connection⟩ store ∧
    e.memory = .memory used ∧ Mirrors stem store used

/-- **The invariant holds before every presentation** of a run that starts with it. -/
theorem isMirrored_of_mem_encounters {stem : String} {store : Store} {used : List String}
    (h : Mirrors stem store used) (retention : Int) (connection : Option Connection)
    {presentations : List Presentation} {e : Encounter}
    (he : e ∈ encounters (.shared ⟨stem, .int retention, connection⟩ store) (.memory used)
      presentations) : IsMirrored stem retention connection e := by
  induction presentations generalizing store used with
  | nil => cases he
  | cons presentation rest ih =>
    rw [encounters, List.mem_cons] at he
    rcases he with rfl | he
    · exact ⟨store, used, rfl, rfl, h⟩
    · obtain ⟨after, later, hshared, hmemory, hmirrors⟩ :=
        h.present retention connection presentation
      rw [hshared, hmemory] at he
      exact ih hmirrors he

/-- **A tracker on a shared store refines the tracker in memory.** Let a run of presentations meet a
tracker on an empty store, of any key stem and retention, and the empty tracker in memory.

1. Both answer every presentation, and what the shared tracker refuses, the one in memory refuses.
   After each presentation the keys in the store are the stem followed by each of the fingerprints
   in memory.
2. If before each presentation all keys in the store are live, the two give the same answer to each,
   and the live keys are those of the fingerprints in memory. -/
theorem shared_store_refines_memory (stem : String) (retention : Int)
    (connection : Option Connection) (presentations : List Presentation) :
    let run := encounters (.onStore ⟨stem, .int retention, connection⟩) .empty presentations
    (∀ e ∈ run,
      (∃ accepted known, e.sharedStep.result = .ok accepted ∧ e.memoryStep.result = .ok known ∧
        (accepted = false → known = false)) ∧
      ∀ key, key ∈ e.sharedStep.tracker.keys ↔
        ∃ fingerprint ∈ e.memoryStep.tracker.recorded, key = stem ++ fingerprint) ∧
    ((∀ e ∈ run, ∀ key ∈ e.shared.keys, e.shared.isLive e.presentation.clock key = true) →
      ∀ e ∈ run, e.sharedStep.result = e.memoryStep.result ∧
        ∀ key, e.shared.isLive e.presentation.clock key = true ↔
          ∃ fingerprint ∈ e.memory.recorded, key = stem ++ fingerprint) := by
  intro run
  have hmirrored : ∀ e ∈ run, IsMirrored stem retention connection e := fun e he =>
    isMirrored_of_mem_encounters (Mirrors.empty stem) retention connection he
  constructor
  · rintro ⟨shared, memory, presentation⟩ he
    obtain ⟨store, used, rfl, rfl, hmirrors⟩ := hmirrored _ he
    obtain ⟨after, later, hshared, hmemory, hlater⟩ :=
      hmirrors.present retention connection presentation
    unfold Encounter.sharedStep Encounter.memoryStep
    rw [hshared, hmemory]
    refine ⟨⟨_, _, rfl, rfl, ?_⟩, hlater.keys⟩
    intro hrefused
    have hlive := (Bool.not_eq_false' _).mp hrefused
    rw [decide_eq_true (hmirrors.key_mem_iff.mp (mem_keys_of_isLive hlive))]
    rfl
  · rintro hlive ⟨shared, memory, presentation⟩ he
    have hall := hlive _ he
    obtain ⟨store, used, rfl, rfl, hmirrors⟩ := hmirrored _ he
    have hlive_iff : ∀ key, store.isLive (.int presentation.clock) key = true ↔
        key ∈ store.expiries.map (·.1) := fun key => ⟨mem_keys_of_isLive, hall key⟩
    obtain ⟨after, later, hshared, hmemory, -⟩ :=
      hmirrors.present retention connection presentation
    have hsame : store.isLive (.int presentation.clock)
        (stem ++ Nonce.fingerprintOf presentation.nonce) =
          decide (Nonce.fingerprintOf presentation.nonce ∈ used) := by
      rw [Bool.eq_iff_iff, hlive_iff, hmirrors.key_mem_iff, decide_eq_true_eq]
    unfold Encounter.sharedStep Encounter.memoryStep
    rw [hshared, hmemory, hsame]
    exact ⟨rfl, fun key => (hlive_iff key).trans (hmirrors.keys key)⟩

/-- Three presentations of two nonces within a minute. -/
def withinAMinute : List Presentation := [⟨0, "n", some 30⟩, ⟨50, "m", none⟩, ⟨60, "n", some 5⟩]

/-- A store that keeps nonces for a hundred seconds has all keys live meanwhile, and answers as the
memory does. -/
theorem run_within_retention_answered_alike :
    let run := encounters (.onStore ⟨"nonce:", .int 100, none⟩) .empty withinAMinute
    (∀ e ∈ run, ∀ key ∈ e.shared.keys, e.shared.isLive e.presentation.clock key = true) ∧
      (∀ e ∈ run, e.sharedStep.result = e.memoryStep.result) ∧
      run.map (·.memoryStep.result.toOption) = [some true, some true, some false] := by
  intro run
  have hlive : ∀ e ∈ run, ∀ key ∈ e.shared.keys,
      e.shared.isLive e.presentation.clock key = true := by decide +kernel
  have halike := (shared_store_refines_memory "nonce:" 100 none withinAMinute).2 hlive
  exact ⟨hlive, fun e he => (halike e he).1, by decide +kernel⟩

/-- A nonce whose key has lapsed is accepted again by the store, and not by the memory. -/
example : (encounters (.onStore ⟨"nonce:", .int 100, none⟩) .empty
      [⟨0, "n", some 30⟩, ⟨100, "n", some 5⟩]).map
        (fun e => (e.sharedStep.result.toOption, e.memoryStep.result.toOption)) =
    [(some true, some true), (some true, some false)] := by decide +kernel

end Emergency

end SecretAccess
