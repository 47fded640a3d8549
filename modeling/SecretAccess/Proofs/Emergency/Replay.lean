import SecretAccess.Proofs.Emergency.Vetting

/-!
# A shared store refuses a nonce longer than its grant lives

Several evaluators, each with a tracker of its own retention, reach one store under one key stem. An
*attempt* is one judgement of a grant by one of them at its own clock reading, during which the
store may be out of reach. Clock readings are whole numbers and need not ascend from attempt to
attempt.

* **The step** (`Attempt.step_cases`): an attempt is refused and no key changes, or it is accepted;
  then its key was not live, and now expires at the later of one second after the grant and one
  retention after the clock. To be refused is to be denied, or to derail in vetting.
* **The invariant** (`HeldUntil`): from an acceptance on, its key is held until that moment. It is
  kept by every attempt (`Attempt.heldUntil_after`): a key that is claimed again has lapsed, so its
  new expiry is later than the one before, whatever the other tracker's retention is and even if the
  clock was set back in between.
* **`replay_denied_while_held`**: an accepted nonce is refused until then, no grant is accepted
  twice, and an attempt during which the store is out of reach is refused and records nothing.
-/

namespace SecretAccess

/-! ## The claims that a store receives -/

namespace Store

variable (store : Store) (clock : Number) (claim : Claim)

/-- The rule of the store leaves the claims alone. -/
theorem claims_claimByRule : (store.claimByRule clock claim).2.claims = store.claims := by
  unfold claimByRule
  split
  · rfl
  · split <;> rfl

/-- A store keeps every claim that it receives, whatever it answers. -/
theorem claims_claim : (store.claim clock claim).2.claims = store.claims ++ [claim] := by
  unfold Store.claim
  rcases store.script with _ | ⟨reply, rest⟩
  · exact claims_claimByRule _ clock claim
  · cases reply <;> rfl

end Store

namespace Emergency

/-! ## Attempts -/

/-- One judgement of a grant through a tracker on the shared store. -/
structure Attempt where
  /-- The longest lifetime that the evaluator allows. -/
  longest : Number
  /-- The retention of its tracker, in seconds. -/
  retention : Int
  /-- The connection of its tracker. -/
  connection : Option Connection
  /-- What its clock reads. -/
  clock : Int
  /-- Why the store is out of reach, if it is. -/
  outage : Option String
  /-- The grant that is judged. -/
  grant : Grant
  /-- The resource that the journal names. -/
  resource : Value
  /-- Whom the decision is about. -/
  caller : Caller

namespace Attempt

/-- How the tracker of an attempt uses the store. -/
def use (stem : String) (attempt : Attempt) : StoreUse :=
  ⟨stem, .int attempt.retention, attempt.connection⟩

/-- The tracker of an attempt. -/
def tracker (stem : String) (store : Store) (attempt : Attempt) : Tracker :=
  .shared (attempt.use stem)
    { store with script := (attempt.outage.map Reply.unavailable).toList }

/-- What an attempt comes to. -/
def step (stem : String) (store : Store) (attempt : Attempt) : Step Decision :=
  judge attempt.longest (.int attempt.clock) (attempt.tracker stem store) attempt.grant
    attempt.resource attempt.caller

/-- The store after an attempt. -/
def after (stem : String) (store : Store) (attempt : Attempt) : Store :=
  match (attempt.step stem store).tracker with
  | .shared _ store => store
  | .memory _ => store

/-- Whether the grant of an attempt passes all that is checked before its nonce is. -/
def IsVetted (attempt : Attempt) : Prop :=
  ∃ vetted, vet attempt.longest (.int attempt.clock) attempt.grant = .ok (.ok vetted)

/-- Whether an attempt calls the store. -/
def CallsStore (stem : String) (store : Store) (attempt : Attempt) : Prop :=
  (attempt.after stem store).claims ≠ store.claims

/-- Whether a text is the bare nonce of an attempt. -/
def Presents (attempt : Attempt) (nonce : String) : Prop :=
  attempt.grant.bareNonce.text = .ok nonce

/-- Whether the grant of an attempt derails in vetting, with the fault that escapes. -/
def Derails (attempt : Attempt) (fault : Fault) : Prop :=
  attempt.grant.Derails attempt.longest (.int attempt.clock) fault

/-- The moment until which an accepted attempt holds its key: one second after the grant expires, or
one retention after the clock if that is later. -/
def heldUntil (attempt : Attempt) (expiration : Int) : Int :=
  max (expiration + 1) (attempt.clock + attempt.retention)

end Attempt

/-- The key of a nonce. -/
def keyOf (stem nonce : String) : String := stem ++ Nonce.fingerprintOf nonce

/-! ## The tracker on the store -/

/-- With whole numbers a nonce is recorded until one second after its grant, or for the retention if
that is longer. -/
theorem recordingTime_int (retention remaining : Int) :
    Tracker.recordingTime (.int retention) (some (.int remaining)) =
      .ok (.int (max (remaining + 1) retention)) := by
  show Except.ok (if (Number.int (remaining + 1)).lt (.int retention) then
    Number.int retention else Number.int (remaining + 1)) = _
  rw [Number.int_lt_int]
  by_cases h : remaining + 1 < retention
  · simp only [h, decide_true, if_true]
    congr 2
    omega
  · simp only [h, decide_false, Bool.false_eq_true, if_false]
    congr 2
    omega

namespace Attempt

section consume

variable {attempt : Attempt} (stem : String) (store : Store) (remaining : Int) (nonce : String)

/-- While the store is out of reach no nonce is recorded, and the tracker says why. -/
theorem consume_of_outage {reason : String} (h : attempt.outage = some reason) :
    ∃ after journal,
      (attempt.tracker stem store).consume (.int attempt.clock) nonce (some (.int remaining)) =
        ⟨.error (.storeUnavailable reason), .shared (attempt.use stem) after, journal⟩ ∧
      after.expiries = store.expiries := by
  unfold tracker Tracker.consume Store.claim use
  simp only [recordingTime_int, h]
  exact ⟨_, _, rfl, rfl⟩

/-- A nonce whose key is live is not recorded again. -/
theorem consume_of_live (h : attempt.outage = none)
    (hlive : store.isLive (.int attempt.clock) (keyOf stem nonce) = true) :
    ∃ after,
      (attempt.tracker stem store).consume (.int attempt.clock) nonce (some (.int remaining)) =
        ⟨.ok false, .shared (attempt.use stem) after, []⟩ ∧
      after.expiries = store.expiries := by
  unfold Store.isLive keyOf at hlive
  unfold tracker Tracker.consume Store.claim Store.claimByRule Store.isLive use
  simp only [recordingTime_int, h, Option.map_none, Option.toList_none, Tracker.claimOf, hlive,
    Bool.and_self, if_true]
  exact ⟨_, rfl, rfl⟩

/-- A nonce whose key is not live is recorded for the recording time. -/
theorem consume_of_not_live (h : attempt.outage = none)
    (hlive : store.isLive (.int attempt.clock) (keyOf stem nonce) = false) :
    ∃ after,
      (attempt.tracker stem store).consume (.int attempt.clock) nonce (some (.int remaining)) =
        ⟨.ok true, .shared (attempt.use stem) after, []⟩ ∧
      after.expiries = (keyOf stem nonce,
        .int (attempt.clock + max (remaining + 1) attempt.retention)) :: store.expiries := by
  unfold Store.isLive keyOf at hlive
  unfold tracker Tracker.consume Store.claim Store.claimByRule Store.isLive use
  simp only [recordingTime_int, h, Option.map_none, Option.toList_none, Tracker.claimOf, hlive,
    Bool.and_false, Bool.false_eq_true, if_false, Number.int_add_int]
  exact ⟨_, rfl, rfl⟩

/-- The store is called once, whatever it answers. -/
theorem claims_of_consume (attempt : Attempt) :
    ∃ after claim,
      ((attempt.tracker stem store).consume (.int attempt.clock) nonce
        (some (.int remaining))).tracker = .shared (attempt.use stem) after ∧
      after.claims = store.claims ++ [claim] := by
  have hclaims := Store.claims_claim
    { store with script := (attempt.outage.map Reply.unavailable).toList } (.int attempt.clock)
    (Tracker.claimOf (attempt.use stem) (Nonce.fingerprintOf nonce)
      (.int (max (remaining + 1) attempt.retention)))
  unfold tracker Tracker.consume
  simp only [use, recordingTime_int] at hclaims ⊢
  split <;> rename_i hclaim
  · rw [hclaim] at hclaims
    exact ⟨_, _, rfl, hclaims⟩
  · rw [hclaim] at hclaims
    exact ⟨_, _, rfl, hclaims⟩

end consume

/-! ## One step -/

/-- Whether an attempt gives access. -/
def Accepted (stem : String) (store : Store) (attempt : Attempt) : Prop :=
  ∃ decision, (attempt.step stem store).result = .ok decision ∧ decision.isAuthorized = true

/-- Whether an attempt is answered and gives no access. -/
def Denied (stem : String) (store : Store) (attempt : Attempt) : Prop :=
  ∃ decision, (attempt.step stem store).result = .ok decision ∧ decision.isAuthorized = false

/-- Whether an attempt is denied, or derails and ends in the fault. -/
def Refused (stem : String) (store : Store) (attempt : Attempt) : Prop :=
  attempt.Denied stem store ∨
    ∃ fault, attempt.Derails fault ∧ (attempt.step stem store).result = .error fault

/-- What is refused is not accepted. -/
theorem not_accepted_of_refused {stem : String} {store : Store} {attempt : Attempt}
    (h : attempt.Refused stem store) : ¬attempt.Accepted stem store := by
  rintro ⟨decision, hdecision, hyes⟩
  rcases h with ⟨other, hother, hno⟩ | ⟨fault, -, hfault⟩
  · rw [hother, Except.ok.injEq] at hdecision
    rw [hdecision, hyes] at hno
    cases hno
  · rw [hfault] at hdecision
    cases hdecision

/-- An attempt that vetting lets through is redeemed. -/
theorem step_of_vetted {attempt : Attempt} {vetted : Vetted}
    (hvet : vet attempt.longest (.int attempt.clock) attempt.grant = .ok (.ok vetted))
    (stem : String) (store : Store) :
    attempt.step stem store = redeem (.int attempt.clock) (attempt.tracker stem store)
      attempt.grant vetted attempt.resource attempt.caller :=
  judge_of_vetted hvet _ _ _

/-- An attempt that vetting does not let through is refused and changes nothing. -/
theorem refused_of_not_vetted {attempt : Attempt} (h : ¬attempt.IsVetted) (stem : String)
    (store : Store) :
    attempt.Refused stem store ∧ (attempt.after stem store).expiries = store.expiries ∧
      (attempt.after stem store).claims = store.claims := by
  rcases hvet : vet attempt.longest (.int attempt.clock) attempt.grant with
    fault | rejection | vetted
  · unfold Refused after step
    rw [judge_of_fault hvet]
    exact ⟨.inr ⟨fault, vet_eq_fault_iff.mp hvet, rfl⟩, rfl, rfl⟩
  · unfold Refused Denied after step
    rw [judge_of_rejected hvet]
    exact ⟨.inl ⟨_, rfl, rfl⟩, rfl, rfl⟩
  · exact absurd ⟨vetted, hvet⟩ h

/-- **The two things an attempt comes to.** It is refused and no key changes; or it is accepted, and
the key of its nonce, which was not live, is held from now on. -/
theorem step_cases (stem : String) (store : Store) (attempt : Attempt) :
    (attempt.Refused stem store ∧ (attempt.after stem store).expiries = store.expiries) ∨
      ∃ nonce expiration, attempt.Presents nonce ∧
        attempt.grant.statedExpiration? = some expiration ∧ attempt.clock < expiration ∧
        (attempt.step stem store).result = .ok (.grantEmergency attempt.caller) ∧
        store.isLive (.int attempt.clock) (keyOf stem nonce) = false ∧
        (attempt.after stem store).expiries =
          (keyOf stem nonce, .int (attempt.heldUntil expiration)) :: store.expiries := by
  by_cases hvetted : attempt.IsVetted
  · obtain ⟨vetted, hvet⟩ := hvetted
    obtain ⟨hstated, hlater, hsub, -, hnonce, -⟩ := vet_eq_vetted_iff.mp hvet
    rw [Number.int_le_int, decide_eq_false_iff_not, Int.not_le] at hlater
    rw [Number.int_sub_int, Except.ok.injEq] at hsub
    unfold Refused Denied after
    rw [step_of_vetted hvet]
    rcases houtage : attempt.outage with _ | reason
    · by_cases hlive : store.isLive (.int attempt.clock) (keyOf stem vetted.nonce) = true
      · obtain ⟨later, hconsume, hsame⟩ := consume_of_live stem store
          (vetted.expiration - attempt.clock) vetted.nonce houtage hlive
        rw [hsub] at hconsume
        rw [redeem_of_replay hconsume]
        exact .inl ⟨.inl ⟨_, rfl, rfl⟩, hsame⟩
      · rw [Bool.not_eq_true] at hlive
        obtain ⟨later, hconsume, hheld⟩ := consume_of_not_live stem store
          (vetted.expiration - attempt.clock) vetted.nonce houtage hlive
        rw [hsub] at hconsume
        rw [redeem_of_first_use hconsume]
        refine .inr ⟨vetted.nonce, vetted.expiration, hnonce, hstated, hlater, rfl, hlive, ?_⟩
        show later.expiries = _
        rw [hheld]
        unfold heldUntil
        congr 3
        omega
    · obtain ⟨later, journal, hconsume, hsame⟩ := consume_of_outage stem store
        (vetted.expiration - attempt.clock) vetted.nonce houtage
      rw [hsub] at hconsume
      rw [redeem_of_unavailable hconsume]
      exact .inl ⟨.inl ⟨_, rfl, rfl⟩, hsame⟩
  · obtain ⟨hrefused, hsame, -⟩ := refused_of_not_vetted hvetted stem store
    exact .inl ⟨hrefused, hsame⟩

/-- An attempt calls the store exactly if its grant is vetted. -/
theorem callsStore_iff (stem : String) (store : Store) (attempt : Attempt) :
    attempt.CallsStore stem store ↔ attempt.IsVetted := by
  constructor
  · intro hcalls
    by_contra hvetted
    exact hcalls (refused_of_not_vetted hvetted stem store).2.2
  · rintro ⟨vetted, hvet⟩
    obtain ⟨-, -, hsub, -, -, -⟩ := vet_eq_vetted_iff.mp hvet
    rw [Number.int_sub_int, Except.ok.injEq] at hsub
    obtain ⟨later, claim, htracker, hclaims⟩ := claims_of_consume stem store
      (vetted.expiration - attempt.clock) vetted.nonce attempt
    rw [hsub] at htracker
    unfold CallsStore after
    rw [step_of_vetted hvet]
    simp [tracker_redeem, htracker, hclaims]

/-- While the store is out of reach an attempt is refused and no key changes; if it calls the store,
it is denied because the nonce cannot be verified. -/
theorem step_of_outage {attempt : Attempt} {reason : String} (h : attempt.outage = some reason)
    (stem : String) (store : Store) :
    attempt.Refused stem store ∧ (attempt.after stem store).expiries = store.expiries ∧
      (attempt.CallsStore stem store → ∃ nonce, attempt.Presents nonce ∧
        (attempt.step stem store).result =
          .ok (denial attempt.caller (.unverifiable (Nonce.fingerprintOf nonce)))) := by
  rw [callsStore_iff]
  by_cases hvetted : attempt.IsVetted
  · obtain ⟨vetted, hvet⟩ := hvetted
    obtain ⟨-, -, hsub, -, hnonce, -⟩ := vet_eq_vetted_iff.mp hvet
    rw [Number.int_sub_int, Except.ok.injEq] at hsub
    obtain ⟨later, journal, hconsume, hsame⟩ := consume_of_outage stem store
      (vetted.expiration - attempt.clock) vetted.nonce h
    rw [hsub] at hconsume
    unfold Refused Denied after
    rw [step_of_vetted hvet, redeem_of_unavailable hconsume]
    exact ⟨.inl ⟨_, rfl, rfl⟩, hsame, fun _ => ⟨vetted.nonce, hnonce, rfl⟩⟩
  · obtain ⟨hrefused, hsame, -⟩ := refused_of_not_vetted hvetted stem store
    exact ⟨hrefused, hsame, fun hcalls => absurd hcalls hvetted⟩

end Attempt

/-! ## The invariant -/

/-- Whether a store holds a key until a moment at least. -/
def HeldUntil (store : Store) (key : String) (moment : Int) : Prop :=
  ∃ expiry : Int, store.expiries.lookup key = some (.int expiry) ∧ moment ≤ expiry

namespace Attempt

variable {stem : String} {store : Store}

/-- A key is live until the moment until which it is held. -/
theorem isLive_of_heldUntil {key : String} {moment clock : Int} (h : HeldUntil store key moment)
    (hclock : clock < moment) : store.isLive (.int clock) key = true := by
  obtain ⟨expiry, hlookup, hle⟩ := h
  unfold Store.isLive
  rw [hlookup]
  show (Number.int clock).lt (.int expiry) = true
  rw [Number.int_lt_int, decide_eq_true_eq]
  omega

/-- An attempt on a key that is held past its clock is refused. -/
theorem refused_of_heldUntil {attempt : Attempt} {nonce : String} {moment : Int}
    (hnonce : attempt.Presents nonce) (h : HeldUntil store (keyOf stem nonce) moment)
    (hclock : attempt.clock < moment) : attempt.Refused stem store := by
  rcases attempt.step_cases stem store with ⟨hrefused, -⟩ | ⟨other, -, hother, -, -, -, hlive, -⟩
  · exact hrefused
  · rw [Presents, hnonce, Except.ok.injEq] at hother
    rw [← hother, isLive_of_heldUntil h hclock] at hlive
    cases hlive

/-- **An acceptance holds its key**, until the moment that the expiration of the grant says. -/
theorem exists_heldUntil_of_accepted {attempt : Attempt} (h : attempt.Accepted stem store) :
    ∃ nonce expiration, attempt.Presents nonce ∧
      attempt.grant.statedExpiration? = some expiration ∧
      HeldUntil (attempt.after stem store) (keyOf stem nonce) (attempt.heldUntil expiration) := by
  rcases attempt.step_cases stem store with
    ⟨hrefused, -⟩ | ⟨nonce, expiration, hnonce, hstated, -, -, -, hkeys⟩
  · exact absurd h (not_accepted_of_refused hrefused)
  · refine ⟨nonce, expiration, hnonce, hstated, _, ?_, Int.le_refl _⟩
    rw [hkeys, List.lookup_cons_self]

/-- **A held key stays held.** An acceptance of the same key at a clock that reads less is
impossible, and one at a later clock moves the expiry further on. -/
theorem heldUntil_after {key : String} {moment : Int} (h : HeldUntil store key moment)
    (attempt : Attempt) : HeldUntil (attempt.after stem store) key moment := by
  obtain ⟨expiry, hlookup, hle⟩ := h
  rcases attempt.step_cases stem store with
    ⟨-, hsame⟩ | ⟨nonce, expiration, -, -, hlater, -, hlive, hkeys⟩
  · exact ⟨expiry, by rw [hsame, hlookup], hle⟩
  · by_cases hkey : key = keyOf stem nonce
    · subst hkey
      -- The key had lapsed, so the clock is at its old expiry or later.
      unfold Store.isLive at hlive
      rw [hlookup] at hlive
      have hlapsed : expiry ≤ attempt.clock := by simpa using hlive
      refine ⟨attempt.heldUntil expiration, ?_, ?_⟩
      · rw [hkeys, List.lookup_cons_self]
      · unfold heldUntil
        omega
    · refine ⟨expiry, ?_, hle⟩
      rw [hkeys, List.lookup_cons, beq_eq_false_iff_ne.mpr hkey]
      exact hlookup

end Attempt

/-! ## Whole runs -/

/-- One attempt of a run and the store that it meets. -/
structure Visit where
  /-- The store before the attempt. -/
  before : Store
  /-- The attempt. -/
  attempt : Attempt

namespace Visit

/-- What the attempt comes to. -/
def step (stem : String) (visit : Visit) : Step Decision := visit.attempt.step stem visit.before

/-- The store after the attempt. -/
def after (stem : String) (visit : Visit) : Store := visit.attempt.after stem visit.before

/-- Whether the attempt calls the store. -/
def CallsStore (stem : String) (visit : Visit) : Prop := visit.attempt.CallsStore stem visit.before

/-- Whether the attempt gives access. -/
def Accepted (stem : String) (visit : Visit) : Prop := visit.attempt.Accepted stem visit.before

/-- Whether the attempt is denied, or derails and ends in the fault. -/
def Refused (stem : String) (visit : Visit) : Prop := visit.attempt.Refused stem visit.before

end Visit

/-- The visits of a run of attempts that starts with the given store. -/
def visits (stem : String) : Store → List Attempt → List Visit
  | _, [] => []
  | store, attempt :: rest => ⟨store, attempt⟩ :: visits stem (attempt.after stem store) rest

/-- A key that is held before a run is held before each attempt of the run. -/
theorem heldUntil_of_mem_visits {stem : String} {store : Store} {key : String} {moment : Int}
    (h : HeldUntil store key moment) {attempts : List Attempt} {visit : Visit}
    (hvisit : visit ∈ visits stem store attempts) : HeldUntil visit.before key moment := by
  induction attempts generalizing store with
  | nil => cases hvisit
  | cons attempt rest ih =>
    rw [visits, List.mem_cons] at hvisit
    rcases hvisit with rfl | hvisit
    · exact h
    · exact ih (attempt.heldUntil_after h) hvisit

/-- After an acceptance, its nonce is refused until the moment until which its key is held. -/
theorem pairwise_refused_of_accepted (stem : String) (store : Store) (attempts : List Attempt) :
    (visits stem store attempts).Pairwise fun first later =>
      ∀ expiration, first.Accepted stem → first.attempt.grant.statedExpiration? = some expiration →
        later.attempt.grant.bareNonce = first.attempt.grant.bareNonce →
        later.attempt.clock < first.attempt.heldUntil expiration → later.Refused stem := by
  induction attempts generalizing store with
  | nil => exact List.Pairwise.nil
  | cons attempt rest ih =>
    rw [visits, List.pairwise_cons]
    refine ⟨?_, ih _⟩
    intro later hlater expiration haccepted hstated hsame hclock
    obtain ⟨nonce, held, hnonce, hheldstated, hheld⟩ :=
      Attempt.exists_heldUntil_of_accepted haccepted
    rw [hstated, Option.some.injEq] at hheldstated
    rw [← hheldstated] at hheld
    have hpresents : later.attempt.Presents nonce := by
      unfold Attempt.Presents
      rw [hsame]
      exact hnonce
    exact Attempt.refused_of_heldUntil hpresents (heldUntil_of_mem_visits hheld hlater) hclock

/-- No grant is accepted twice: what would accept it again reads its clock before the grant expires,
and until then its key is held. -/
theorem pairwise_refused_of_same_grant (stem : String) (store : Store) (attempts : List Attempt) :
    (visits stem store attempts).Pairwise fun first later =>
      first.Accepted stem → later.attempt.grant.bareNonce = first.attempt.grant.bareNonce →
        later.attempt.grant.statedExpiration? = first.attempt.grant.statedExpiration? →
        later.Refused stem := by
  apply (pairwise_refused_of_accepted stem store attempts).imp
  intro first later hheld haccepted hnonce hsame
  obtain ⟨-, expiration, -, hstated, -⟩ := Attempt.exists_heldUntil_of_accepted haccepted
  rcases later.attempt.step_cases stem later.before with
    ⟨hrefused, -⟩ | ⟨-, again, -, hagain, hclock, -⟩
  · exact hrefused
  · rw [hsame, hstated, Option.some.injEq] at hagain
    apply hheld expiration haccepted hstated hnonce
    unfold Attempt.heldUntil
    omega

/-- **Replay protection on a shared store outlives the grant.** In every run of attempts on one
store, an accepted nonce is refused at every clock that reads less than one second past its
expiration or less than one retention past the clock that accepted it; the same nonce with the same
expiration is refused at every clock. What is refused is not accepted: it is denied, unless it
derails in vetting and ends in that fault. An attempt during which the store is out of reach is
refused and changes no key; it calls the store if its grant is vetted, and is then denied as
unverifiable. -/
theorem replay_denied_while_held (stem : String) (store : Store) (attempts : List Attempt) :
    (visits stem store attempts).Pairwise (fun first later =>
        first.Accepted stem → later.attempt.grant.bareNonce = first.attempt.grant.bareNonce →
          (∃ expiration, first.attempt.grant.statedExpiration? = some expiration ∧
            (later.attempt.clock <
                max (expiration + 1) (first.attempt.clock + first.attempt.retention) →
              later.Refused stem ∧ ¬later.Accepted stem)) ∧
          (later.attempt.grant.statedExpiration? = first.attempt.grant.statedExpiration? →
            later.Refused stem ∧ ¬later.Accepted stem)) ∧
      ∀ visit ∈ visits stem store attempts, ∀ reason, visit.attempt.outage = some reason →
        visit.Refused stem ∧ ¬visit.Accepted stem ∧
          (visit.after stem).expiries = visit.before.expiries ∧
          (visit.CallsStore stem ↔ visit.attempt.IsVetted) ∧
          (visit.CallsStore stem → ∃ nonce, visit.attempt.grant.bareNonce.text = .ok nonce ∧
            (visit.step stem).result = .ok (denial visit.attempt.caller
              (.unverifiable (Nonce.fingerprintOf nonce)))) := by
  constructor
  · apply List.Pairwise.imp₂ _ (pairwise_refused_of_accepted stem store attempts)
      (pairwise_refused_of_same_grant stem store attempts)
    intro first later hheld hsame haccepted hnonce
    obtain ⟨-, expiration, -, hstated, -⟩ := Attempt.exists_heldUntil_of_accepted haccepted
    refine ⟨⟨expiration, hstated, fun hclock => ?_⟩, fun hstated => ?_⟩
    · have hrefused := hheld expiration haccepted hstated hnonce hclock
      exact ⟨hrefused, Attempt.not_accepted_of_refused hrefused⟩
    · have hrefused := hsame haccepted hnonce hstated
      exact ⟨hrefused, Attempt.not_accepted_of_refused hrefused⟩
  · intro visit _ reason houtage
    obtain ⟨hrefused, hkeys, hunverified⟩ := Attempt.step_of_outage houtage stem visit.before
    exact ⟨hrefused, Attempt.not_accepted_of_refused hrefused, hkeys,
      visit.attempt.callsStore_iff stem visit.before, hunverified⟩

end Emergency

end SecretAccess
