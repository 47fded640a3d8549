import Mathlib.Data.List.Nodup
import SecretAccess.Proofs.Service.Call

/-!
# Emergency access is given once for each nonce

A *run* is any list of calls, of any services, that meet one tracker one after another. This file
follows a run on a tracker in memory and accounts for everything that the tracker holds at the end.

* **The step** (`Call.step_memory_cases`): a call gives emergency access and records the fingerprint
  of its bare nonce, which is new, or it gives no emergency access and leaves the tracker as it is.
  Which of the two happens is seen from the answer alone.
* **The run** (`trackerAfter_memory`): what a run adds to the tracker is the list of the
  fingerprints of its emergency accesses, in order, and none of them was there before.
* **`emergency_access_once_per_nonce`**: no two calls of a run from the empty tracker give emergency
  access by grants with one bare nonce, and the tracker holds as many fingerprints at the end as
  there were emergency accesses.

The tracker keeps fingerprints and not nonces. Two nonces with one fingerprint would count as one,
so none of this rests on the digest being free of collisions.
-/

namespace SecretAccess

/-! ## Runs -/

/-- One call of a run and the tracker that it meets. -/
structure Turn where
  /-- The tracker before the call. -/
  before : Tracker
  /-- The call. -/
  call : Call

namespace Turn

/-- What the call comes to. -/
def step (turn : Turn) : Step Answer := turn.call.step turn.before

/-- The bare nonce of the grant that the caller presents, if it is a text. -/
def nonce? (turn : Turn) : Option String := turn.call.nonce?

/-- Whether the call is answered with emergency access. -/
def givesEmergency (turn : Turn) : Bool := turn.step.givesEmergency

end Turn

/-- The turns of a run that starts with the given tracker. -/
def turns : Tracker → List Call → List Turn
  | _, [] => []
  | tracker, call :: rest => ⟨tracker, call⟩ :: turns (call.step tracker).tracker rest

/-- The tracker at the end of a run. -/
def trackerAfter : Tracker → List Call → Tracker
  | tracker, [] => tracker
  | tracker, call :: rest => trackerAfter (call.step tracker).tracker rest

/-- The turns of a run that are answered with emergency access. -/
def emergencyTurns (tracker : Tracker) (calls : List Call) : List Turn :=
  (turns tracker calls).filter Turn.givesEmergency

/-- The bare nonces of the emergency accesses of a run, in order. -/
def spentNonces (tracker : Tracker) (calls : List Call) : List String :=
  (emergencyTurns tracker calls).filterMap Turn.nonce?

/-! ## One step -/

namespace Call

/-- **What one call does to a tracker in memory.** The answer tells the two cases apart. -/
theorem step_memory_cases (call : Call) (used : List String) :
    (∃ nonce, call.nonce? = some nonce ∧ Nonce.fingerprintOf nonce ∉ used ∧
        (call.step (.memory used)).givesEmergency = true ∧
        (call.step (.memory used)).tracker = .memory (used ++ [Nonce.fingerprintOf nonce])) ∨
      ((call.step (.memory used)).givesEmergency = false ∧
        (call.step (.memory used)).tracker = .memory used) := by
  rcases hjudged : call.judged? with _ | grant
  · obtain ⟨result, journal, hstep, hno, -⟩ := isPlain_of_unjudged hjudged
    right
    rw [hstep]
    refine ⟨?_, rfl⟩
    unfold Step.givesEmergency
    rcases result with fault | answer
    · rfl
    · exact hno answer rfl
  · obtain ⟨-, hgrant⟩ := judged?_eq_some_iff.mp hjudged
    obtain ⟨resource, answer, hstep, hyes, hno, -⟩ := step_of_judged hjudged
    rw [hstep]
    unfold Step.map Step.givesEmergency
    rcases Emergency.judge_memory_cases call.service.longestGrant call.clock used grant resource
      call.principal.caller with
      ⟨nonce, htext, hnew, hresult, htracker⟩ | ⟨hresult, htracker⟩
    · left
      refine ⟨nonce, ?_, hnew, ?_, htracker⟩
      · unfold nonce?
        rw [hgrant, Option.bind_some, htext]
        rfl
      · rw [hresult]
        exact hyes
    · right
      refine ⟨?_, htracker⟩
      rcases hresult with ⟨rejection, hresult⟩ | ⟨fault, hresult, -⟩
      · rw [hresult]
        exact hno rejection
      · rw [hresult]
        rfl

end Call

/-! ## Whole runs -/

/-- An emergency access heads the accesses of the run that starts with it, and its nonce the nonces
that the run spends. -/
theorem spends_cons_of_emergency {tracker : Tracker} {call : Call} {nonce : String}
    (h : (call.step tracker).givesEmergency = true) (hnonce : call.nonce? = some nonce)
    (rest : List Call) :
    emergencyTurns tracker (call :: rest) =
        ⟨tracker, call⟩ :: emergencyTurns (call.step tracker).tracker rest ∧
      spentNonces tracker (call :: rest) =
        nonce :: spentNonces (call.step tracker).tracker rest := by
  have hturns : emergencyTurns tracker (call :: rest) =
      ⟨tracker, call⟩ :: emergencyTurns (call.step tracker).tracker rest := by
    unfold emergencyTurns
    rw [turns, List.filter_cons_of_pos]
    exact h
  refine ⟨hturns, ?_⟩
  unfold spentNonces
  rw [hturns, List.filterMap_cons_some]
  exact hnonce

/-- Any other call adds nothing to the accesses of a run and to the nonces that it spends. -/
theorem spends_cons_of_no_emergency {tracker : Tracker} {call : Call}
    (h : (call.step tracker).givesEmergency = false) (rest : List Call) :
    emergencyTurns tracker (call :: rest) = emergencyTurns (call.step tracker).tracker rest ∧
      spentNonces tracker (call :: rest) = spentNonces (call.step tracker).tracker rest := by
  have hturns : emergencyTurns tracker (call :: rest) =
      emergencyTurns (call.step tracker).tracker rest := by
    unfold emergencyTurns
    rw [turns, List.filter_cons_of_neg]
    exact Bool.eq_false_iff.mp h
  refine ⟨hturns, ?_⟩
  unfold spentNonces
  rw [hturns]

/-- **What a run adds to a tracker in memory**: the fingerprints of the nonces that it spends, one
for each emergency access, in order. -/
theorem trackerAfter_memory (calls : List Call) (used : List String) :
    trackerAfter (.memory used) calls =
        .memory (used ++ (spentNonces (.memory used) calls).map Nonce.fingerprintOf) ∧
      (spentNonces (.memory used) calls).length =
        (emergencyTurns (.memory used) calls).length := by
  induction calls generalizing used with
  | nil => simp [trackerAfter, spentNonces, emergencyTurns, turns]
  | cons call rest ih =>
    rw [trackerAfter]
    rcases call.step_memory_cases used with ⟨nonce, hnonce, -, hyes, htracker⟩ | ⟨hno, htracker⟩
    · obtain ⟨hturns, hspent⟩ := spends_cons_of_emergency hyes hnonce rest
      obtain ⟨hend, hlength⟩ := ih (used ++ [Nonce.fingerprintOf nonce])
      rw [hturns, hspent, htracker, hend]
      refine ⟨?_, ?_⟩
      · rw [List.map_cons, List.append_assoc, List.singleton_append]
      · rw [List.length_cons, List.length_cons, hlength]
    · obtain ⟨hturns, hspent⟩ := spends_cons_of_no_emergency hno rest
      rw [hturns, hspent, htracker]
      exact ih used

/-- A run spends no nonce whose fingerprint is recorded, and none twice. -/
theorem nodup_append_spentNonces (calls : List Call) (used : List String) (h : used.Nodup) :
    (used ++ (spentNonces (.memory used) calls).map Nonce.fingerprintOf).Nodup := by
  induction calls generalizing used with
  | nil => simpa [spentNonces, emergencyTurns, turns] using h
  | cons call rest ih =>
    rcases call.step_memory_cases used with
      ⟨nonce, hnonce, hnew, hyes, htracker⟩ | ⟨hno, htracker⟩
    · have hgrown : (used ++ [Nonce.fingerprintOf nonce]).Nodup := by
        rw [List.nodup_append]
        refine ⟨h, List.nodup_singleton _, ?_⟩
        rintro a ha b hb rfl
        rw [List.mem_singleton] at hb
        exact hnew (hb ▸ ha)
      have hrest := ih (used ++ [Nonce.fingerprintOf nonce]) hgrown
      rw [List.append_assoc, List.singleton_append] at hrest
      rw [(spends_cons_of_emergency hyes hnonce rest).2, htracker]
      exact hrest
    · rw [(spends_cons_of_no_emergency hno rest).2, htracker]
      exact ih used h

/-- A run that starts with a tracker in memory meets trackers in memory only. -/
theorem before_memory_of_mem_turns {calls : List Call} {used : List String} {turn : Turn}
    (h : turn ∈ turns (.memory used) calls) : ∃ known, turn.before = .memory known := by
  induction calls generalizing used with
  | nil => cases h
  | cons call rest ih =>
    rw [turns, List.mem_cons] at h
    rcases h with rfl | h
    · exact ⟨used, rfl⟩
    · rcases call.step_memory_cases used with ⟨_, -, -, -, htracker⟩ | ⟨-, htracker⟩
      · rw [htracker] at h
        exact ih h
      · rw [htracker] at h
        exact ih h

/-- **Emergency access is given once for each nonce.** In any run from the empty tracker, whatever
the services, callers, resources, actions and clock readings:

1. no two calls give emergency access by grants with one bare nonce;
2. at the end the tracker holds exactly the fingerprints of the bare nonces of the calls that gave
   emergency access, each once, so as many as there were such calls;
3. every other call leaves the tracker as it was. -/
theorem emergency_access_once_per_nonce (calls : List Call) :
    (∀ nonce, ((emergencyTurns .empty calls).filter (·.nonce? == some nonce)).length ≤ 1) ∧
      (∃ used, trackerAfter .empty calls = .memory used ∧
        used = (spentNonces .empty calls).map Nonce.fingerprintOf ∧ used.Nodup ∧
        used.length = (emergencyTurns .empty calls).length) ∧
      ∀ turn ∈ turns .empty calls,
        turn.givesEmergency = false → turn.step.tracker = turn.before := by
  obtain ⟨hend, hlength⟩ := trackerAfter_memory calls []
  have hnodup := nodup_append_spentNonces calls [] List.nodup_nil
  rw [List.nil_append] at hend hnodup
  refine ⟨?_, ⟨_, hend, rfl, hnodup, ?_⟩, ?_⟩
  · intro nonce
    have hspent : (spentNonces .empty calls).Nodup := List.Nodup.of_map _ hnodup
    have hcount := List.nodup_iff_count.mp hspent nonce
    unfold spentNonces at hcount
    rw [List.count_filterMap, List.countP_eq_length_filter] at hcount
    exact hcount
  · rw [List.length_map]
    exact hlength
  · intro turn hturn hno
    obtain ⟨known, hbefore⟩ := before_memory_of_mem_turns hturn
    unfold Turn.givesEmergency Turn.step at hno
    unfold Turn.step
    rw [hbefore] at hno ⊢
    rcases turn.call.step_memory_cases known with ⟨_, -, -, hyes, -⟩ | ⟨-, htracker⟩
    · rw [hyes] at hno
      cases hno
    · exact htracker

end SecretAccess
