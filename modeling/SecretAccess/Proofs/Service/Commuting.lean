import SecretAccess.Proofs.Service.SingleUse

/-!
# Independent calls commute

Calls meet in the tracker and nowhere else, and with a tracker in memory a call asks one thing of
it: whether the fingerprint of its own nonce is recorded.

* **`Call.agrees_of_same_knowledge`**: two trackers that agree on this one fingerprint are answered
  and reported alike, and the same is added to both.
* **`independent_calls_commute`**: two calls whose nonces have different fingerprints, or one of
  which presents no grant, may be made in either order. In a run a call is answered as at the start
  of the run if it is independent of all calls before it; if it presents no grant at all, it is
  answered as by a tracker that holds nothing, whatever happened before.

Services, callers, resources, actions and clock readings may differ from call to call. Independence
is about fingerprints, so nothing is assumed of the digest.
-/

namespace SecretAccess

/-! ## What a judgement asks of the tracker -/

namespace Emergency

/-- Two trackers in memory that agree on the fingerprint of the nonce of a grant judge the grant
alike, and the same is added to both: nothing, or that fingerprint. -/
theorem judge_of_same_knowledge {used known : List String} {grant : Grant}
    (h : ∀ nonce, grant.bareNonce.text = .ok nonce →
      (Nonce.fingerprintOf nonce ∈ used ↔ Nonce.fingerprintOf nonce ∈ known))
    (longest clock : Number) (resource : Value) (caller : Caller) :
    ∃ result added journal,
      (∀ f ∈ added, ∃ nonce, grant.bareNonce.text = .ok nonce ∧ f = Nonce.fingerprintOf nonce) ∧
      judge longest clock (.memory used) grant resource caller =
        ⟨result, .memory (used ++ added), journal⟩ ∧
      judge longest clock (.memory known) grant resource caller =
        ⟨result, .memory (known ++ added), journal⟩ := by
  rcases hvet : vet longest clock grant with fault | rejection | vetted
  · rw [judge_of_fault hvet, judge_of_fault hvet]
    exact ⟨_, [], _, nofun, by rw [List.append_nil], by rw [List.append_nil]⟩
  · rw [judge_of_rejected hvet, judge_of_rejected hvet]
    exact ⟨_, [], _, nofun, by rw [List.append_nil], by rw [List.append_nil]⟩
  · obtain ⟨-, -, -, -, hnonce, -⟩ := vet_eq_vetted_iff.mp hvet
    have hsame := h vetted.nonce hnonce
    by_cases hmem : Nonce.fingerprintOf vetted.nonce ∈ used
    · rw [judge_memory_of_known hvet hmem, judge_memory_of_known hvet (hsame.mp hmem)]
      exact ⟨_, [], _, nofun, by rw [List.append_nil], by rw [List.append_nil]⟩
    · rw [judge_memory_of_new hvet hmem, judge_memory_of_new hvet (mt hsame.mpr hmem)]
      exact ⟨_, [Nonce.fingerprintOf vetted.nonce], _,
        fun f hf => ⟨vetted.nonce, hnonce, List.mem_singleton.mp hf⟩, rfl, rfl⟩

end Emergency

/-! ## What a call asks of the tracker -/

/-- Whether two steps come to the same answer and report, whatever they make of the tracker. -/
def Step.AgreesWith {α : Type} (step other : Step α) : Prop :=
  step.result = other.result ∧ step.journal = other.journal

namespace Call

/-- The fingerprints that a call adds to a tracker in memory. -/
def added (call : Call) (used : List String) : List String :=
  match (call.step (.memory used)).tracker with
  | .memory after => after.drop used.length
  | .shared _ _ => []

/-- What a call adds is told by the tracker after it. -/
theorem added_eq {call : Call} {used more : List String}
    (h : (call.step (.memory used)).tracker = .memory (used ++ more)) : call.added used = more := by
  unfold added
  rw [h]
  exact List.drop_left

/-- **A call asks for its own fingerprint only.** Two trackers in memory that agree on the
fingerprint of its nonce, if it presents one, answer a call alike; the same is added to both, and
nothing but that fingerprint. -/
theorem agrees_of_same_knowledge {call : Call} {used known : List String}
    (h : ∀ nonce, call.nonce? = some nonce →
      (Nonce.fingerprintOf nonce ∈ used ↔ Nonce.fingerprintOf nonce ∈ known)) :
    (call.step (.memory used)).AgreesWith (call.step (.memory known)) ∧
      (call.step (.memory used)).tracker = .memory (used ++ call.added used) ∧
      call.added used = call.added known ∧
      ∀ f ∈ call.added used, ∃ nonce, call.nonce? = some nonce ∧ f = Nonce.fingerprintOf nonce := by
  rcases hjudged : call.judged? with _ | grant
  · obtain ⟨result, journal, hstep, -, -⟩ := isPlain_of_unjudged hjudged
    have hnothing : ∀ known, call.added known = [] := by
      intro known
      apply added_eq
      rw [hstep, List.append_nil]
    rw [hnothing, hnothing, hstep, hstep, List.append_nil]
    exact ⟨⟨rfl, rfl⟩, rfl, rfl, nofun⟩
  · obtain ⟨-, hgrant⟩ := judged?_eq_some_iff.mp hjudged
    have hnonce : ∀ nonce, grant.bareNonce.text = .ok nonce → call.nonce? = some nonce := by
      intro nonce htext
      unfold nonce?
      rw [hgrant, Option.bind_some, htext]
      rfl
    obtain ⟨resource, answer, hstep, -⟩ := step_of_judged hjudged
    obtain ⟨result, more, journal, hmore, hused, hknown⟩ :=
      Emergency.judge_of_same_knowledge (fun nonce htext => h nonce (hnonce nonce htext))
        call.service.longestGrant call.clock resource call.principal.caller
    have hadded : call.added used = more := added_eq (by rw [hstep, hused]; rfl)
    have hothers : call.added known = more := added_eq (by rw [hstep, hknown]; rfl)
    rw [hadded, hothers, hstep, hstep, hused, hknown]
    refine ⟨⟨rfl, rfl⟩, rfl, rfl, fun f hf => ?_⟩
    obtain ⟨nonce, htext, hfingerprint⟩ := hmore f hf
    exact ⟨nonce, hnonce nonce htext, hfingerprint⟩

/-- After a call a tracker in memory holds what it held and what the call adds. -/
theorem tracker_step_memory (call : Call) (used : List String) :
    (call.step (.memory used)).tracker = .memory (used ++ call.added used) :=
  (agrees_of_same_knowledge fun _ _ => Iff.rfl).2.1

/-- What a call adds is the fingerprint of its nonce. -/
theorem nonce?_of_mem_added {call : Call} {used : List String} {f : String}
    (h : f ∈ call.added used) :
    ∃ nonce, call.nonce? = some nonce ∧ f = Nonce.fingerprintOf nonce :=
  (agrees_of_same_knowledge fun _ _ => Iff.rfl).2.2.2 f h

/-! ## Independence -/

/-- Whether two calls do not both present grants with nonces of one fingerprint. -/
def IsIndependentOf (call other : Call) : Prop :=
  ∀ nonce, call.nonce? = some nonce → ∀ second, other.nonce? = some second →
    Nonce.fingerprintOf nonce ≠ Nonce.fingerprintOf second

/-- Independence is mutual. -/
theorem IsIndependentOf.symm {call other : Call} (h : call.IsIndependentOf other) :
    other.IsIndependentOf call :=
  fun nonce hnonce second hsecond => (h second hsecond nonce hnonce).symm

/-- A caller without grant presents no nonce. -/
theorem nonce?_of_no_grant {call : Call} (h : call.principal.grant = none) :
    call.nonce? = none := by
  unfold nonce?
  rw [h, Option.bind_none]

/-- A call learns nothing from fingerprints of calls that it is independent of. -/
theorem same_knowledge_of_independent {call : Call} {used more : List String}
    (h : ∀ f ∈ more, ∃ other second, call.IsIndependentOf other ∧ other.nonce? = some second ∧
      f = Nonce.fingerprintOf second) {nonce : String} (hnonce : call.nonce? = some nonce) :
    Nonce.fingerprintOf nonce ∈ used ++ more ↔ Nonce.fingerprintOf nonce ∈ used := by
  rw [List.mem_append]
  refine or_iff_left ?_
  intro hmem
  obtain ⟨other, second, hindependent, hsecond, hsame⟩ := h _ hmem
  exact hindependent nonce hnonce second hsecond hsame

/-- After a call that it is independent of, a call is answered as before it, and adds the same. -/
theorem agrees_after_independent {call earlier : Call} (h : call.IsIndependentOf earlier)
    (used : List String) :
    (call.step (earlier.step (.memory used)).tracker).AgreesWith (call.step (.memory used)) ∧
      (call.step (earlier.step (.memory used)).tracker).tracker =
        .memory (used ++ earlier.added used ++ call.added used) := by
  have hknowledge : ∀ f ∈ earlier.added used, ∃ other second, call.IsIndependentOf other ∧
      other.nonce? = some second ∧ f = Nonce.fingerprintOf second := by
    intro f hf
    obtain ⟨second, hsecond, hsame⟩ := nonce?_of_mem_added hf
    exact ⟨earlier, second, h, hsecond, hsame⟩
  have hsame : ∀ nonce, call.nonce? = some nonce →
      (Nonce.fingerprintOf nonce ∈ used ++ earlier.added used ↔ Nonce.fingerprintOf nonce ∈ used) :=
    fun _ => same_knowledge_of_independent hknowledge
  obtain ⟨hagrees, htracker, hadded, -⟩ := agrees_of_same_knowledge hsame
  rw [tracker_step_memory earlier]
  refine ⟨hagrees, ?_⟩
  rw [htracker, hadded]

end Call

/-! ## Runs -/

/-- The call of a turn is a call of the run. -/
theorem call_mem_of_mem_turns {tracker : Tracker} {calls : List Call} {turn : Turn}
    (h : turn ∈ turns tracker calls) : turn.call ∈ calls := by
  induction calls generalizing tracker with
  | nil => cases h
  | cons call rest ih =>
    rw [turns, List.mem_cons] at h
    rcases h with rfl | h
    · exact List.mem_cons_self
    · exact List.mem_cons_of_mem _ (ih h)

/-- A nonce that a run spends is presented by a call of the run. -/
theorem exists_call_of_mem_spentNonces {tracker : Tracker} {calls : List Call} {nonce : String}
    (h : nonce ∈ spentNonces tracker calls) : ∃ call ∈ calls, call.nonce? = some nonce := by
  obtain ⟨turn, hturn, hnonce⟩ := List.mem_filterMap.mp h
  exact ⟨turn.call, call_mem_of_mem_turns (List.mem_of_mem_filter hturn), hnonce⟩

/-- After a run of calls that it is independent of, a call is answered as before the run. -/
theorem Call.agrees_after_run {call : Call} {before : List Call}
    (h : ∀ earlier ∈ before, call.IsIndependentOf earlier) (used : List String) :
    (call.step (trackerAfter (.memory used) before)).AgreesWith (call.step (.memory used)) := by
  rw [(trackerAfter_memory before used).1]
  refine (agrees_of_same_knowledge fun _ => same_knowledge_of_independent ?_).1
  intro f hf
  obtain ⟨second, hspent, rfl⟩ := List.mem_map.mp hf
  obtain ⟨earlier, hearlier, hsecond⟩ := exists_call_of_mem_spentNonces hspent
  exact ⟨earlier, second, h earlier hearlier, hsecond, rfl⟩

/-- **Independent calls commute.** Let calls meet a tracker in memory that holds any fingerprints.

1. Two calls that do not both present grants with nonces of one fingerprint are each answered and
   reported the same in either order, and in either order the tracker ends up with the same
   fingerprints.
2. A call is answered after a run as before it, if it is independent of every call of the run.
3. A call of a principal without grant is answered after any run as by the empty tracker. -/
theorem independent_calls_commute (used : List String) :
    (∀ first second : Call, first.IsIndependentOf second →
        (first.step (second.step (.memory used)).tracker).AgreesWith (first.step (.memory used)) ∧
        (second.step (first.step (.memory used)).tracker).AgreesWith (second.step (.memory used)) ∧
        ∃ one other,
          (second.step (first.step (.memory used)).tracker).tracker = .memory one ∧
          (first.step (second.step (.memory used)).tracker).tracker = .memory other ∧
          one.Perm other) ∧
      (∀ (before : List Call) (call : Call), (∀ earlier ∈ before, call.IsIndependentOf earlier) →
        (call.step (trackerAfter (.memory used) before)).AgreesWith (call.step (.memory used))) ∧
      ∀ (before : List Call) (call : Call), call.principal.grant = none →
        (call.step (trackerAfter (.memory used) before)).AgreesWith (call.step .empty) := by
  refine ⟨?_, ?_, ?_⟩
  · intro first second hindependent
    obtain ⟨hfirst, hfirstTracker⟩ := Call.agrees_after_independent hindependent used
    obtain ⟨hsecond, hsecondTracker⟩ := Call.agrees_after_independent hindependent.symm used
    refine ⟨hfirst, hsecond, _, _, hsecondTracker, hfirstTracker, ?_⟩
    rw [List.append_assoc, List.append_assoc]
    exact List.perm_append_comm.append_left used
  · intro before call hindependent
    exact Call.agrees_after_run hindependent used
  · intro before call hgrant
    rw [(trackerAfter_memory before used).1]
    refine (Call.agrees_of_same_knowledge ?_).1
    intro nonce hnonce
    rw [Call.nonce?_of_no_grant hgrant] at hnonce
    cases hnonce

/-- The request of a caller whose grant has a given nonce. -/
def Call.withNonce (nonce : String) : Call :=
  ⟨⟨⟨[]⟩, .int 3600⟩, .int 1800000000,
    ⟨⟨some "u", "user"⟩, [], some ⟨none, .text "1800000060", some nonce⟩, true⟩,
    .secret (.text "a"), .read⟩

/-- Two requests with grants of different nonces commute. -/
theorem requests_of_two_nonces_commute :
    (Call.withNonce "n").IsIndependentOf (Call.withNonce "m") ∧
      ((Call.withNonce "n").step ((Call.withNonce "m").step .empty).tracker).AgreesWith
        ((Call.withNonce "n").step .empty) ∧
      ((Call.withNonce "m").step ((Call.withNonce "n").step .empty).tracker).AgreesWith
        ((Call.withNonce "m").step .empty) := by
  have hindependent : (Call.withNonce "n").IsIndependentOf (Call.withNonce "m") := by
    intro nonce hnonce second hsecond
    cases hnonce
    cases hsecond
    decide +kernel
  obtain ⟨hfirst, hsecond, -⟩ := (independent_calls_commute []).1 _ _ hindependent
  exact ⟨hindependent, hfirst, hsecond⟩

end SecretAccess
