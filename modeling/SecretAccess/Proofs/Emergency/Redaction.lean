import SecretAccess.Proofs.Emergency.Vetting

/-!
# The raw nonce is never reported

A nonce opens emergency access, so what is reported of a judgement may name its fingerprint and must
not depend on the nonce in any other way. This is a property of two runs: the same grant is judged
with one nonce and with another, by trackers that know as much of the fingerprint of the one as of
that of the other (`Tracker.Counterparts`).

* **`raw_nonce_never_shows`**: the two judgements come to the same answer, and their reports are
  equal entry by entry but for the value of the field `nonce_fingerprint`, which is the fingerprint
  of the nonce that was presented.

The proof follows the two runs side by side, through `Tracker.consume`, `redeem` and `judge`. What
it carries along is `Step.Alike`: equal results, and a journal that is the other one with the
fingerprint replaced.
-/

namespace SecretAccess

/-! ## Journals but for the fingerprint -/

namespace Journal

/-- The field that shows a fingerprint. -/
def fingerprintField : String := "nonce_fingerprint"

/-- An entry with another fingerprint in the place of the one that it shows, if it shows any. -/
def Entry.withFingerprint (entry : Entry) (fingerprint : String) : Entry :=
  { entry with fields := entry.fields.map fun field =>
      if field.1 = fingerprintField then (field.1, .text fingerprint) else field }

/-- The last replacement counts. -/
@[simp] theorem Entry.withFingerprint_withFingerprint (entry : Entry) (first second : String) :
    (entry.withFingerprint first).withFingerprint second = entry.withFingerprint second := by
  unfold withFingerprint
  simp only [List.map_map, Entry.mk.injEq, true_and]
  refine List.map_congr_left fun field _ => ?_
  by_cases h : field.1 = fingerprintField <;> simp [h]

/-- What an entry shows as a fingerprint after a replacement is the one put in. -/
theorem Entry.eq_of_mem_withFingerprint {entry : Entry} {fingerprint : String} {value : Value}
    (h : (fingerprintField, value) ∈ (entry.withFingerprint fingerprint).fields) :
    value = .text fingerprint := by
  obtain ⟨⟨name, shown⟩, -, hfield⟩ := List.mem_map.mp h
  dsimp only at hfield
  split at hfield
  · cases hfield
    rfl
  · rename_i hname
    cases hfield
    exact absurd rfl hname

/-- Two journals that are equal but for the fingerprint, which is one in the first and another in
the second. -/
structure Alike (one other : String) (here there : List Entry) : Prop where
  /-- The first journal shows no other fingerprint than its own. -/
  own : here.map (·.withFingerprint one) = here
  /-- With the other fingerprint in its place, the first journal is the second. -/
  replaced : here.map (·.withFingerprint other) = there

namespace Alike

variable {one other : String} {here there : List Entry}

/-- Journals without entries. -/
theorem nil : Alike one other [] [] := ⟨rfl, rfl⟩

/-- Journals of one entry. -/
theorem singleton {entry copy : Entry} (hown : entry.withFingerprint one = entry)
    (hreplaced : entry.withFingerprint other = copy) : Alike one other [entry] [copy] := by
  constructor
  · rw [List.map_singleton, hown]
  · rw [List.map_singleton, hreplaced]

/-- Journals written one after another. -/
theorem append {more further : List Entry} (h : Alike one other here there)
    (hmore : Alike one other more further) : Alike one other (here ++ more) (there ++ further) := by
  constructor
  · rw [List.map_append, h.own, hmore.own]
  · rw [List.map_append, h.replaced, hmore.replaced]

/-- With the same fingerprint put into both, the journals are equal. -/
theorem map_eq (h : Alike one other here there) (mark : String) :
    here.map (·.withFingerprint mark) = there.map (·.withFingerprint mark) := by
  rw [← h.replaced, List.map_map]
  exact List.map_congr_left fun entry _ => (entry.withFingerprint_withFingerprint other mark).symm

/-- The first journal shows its own fingerprint only. -/
theorem eq_of_mem_here (h : Alike one other here there) {entry : Entry} (hentry : entry ∈ here)
    {value : Value} (hfield : (fingerprintField, value) ∈ entry.fields) : value = .text one := by
  rw [← h.own] at hentry
  obtain ⟨written, -, rfl⟩ := List.mem_map.mp hentry
  exact Entry.eq_of_mem_withFingerprint hfield

/-- The second journal shows the other fingerprint only. -/
theorem eq_of_mem_there (h : Alike one other here there) {entry : Entry} (hentry : entry ∈ there)
    {value : Value} (hfield : (fingerprintField, value) ∈ entry.fields) : value = .text other := by
  rw [← h.replaced] at hentry
  obtain ⟨written, -, rfl⟩ := List.mem_map.mp hentry
  exact Entry.eq_of_mem_withFingerprint hfield

end Alike

end Journal

/-- Two steps that come to the same answer and differ in their reports by the fingerprint alone.
What becomes of the trackers is not compared. -/
structure Step.Alike {α : Type} (one other : String) (here there : Step α) : Prop where
  /-- The answers are the same. -/
  result : here.result = there.result
  /-- The reports differ by the fingerprint. -/
  journal : Journal.Alike one other here.journal there.journal

/-! ## Trackers that know as much -/

namespace Tracker

/-- Two trackers of which the first knows of one fingerprint what the second knows of another. Else
they need not agree, except in how a shared store is used and in the answers arranged for it. -/
inductive Counterparts (clock : Number) (one other : String) : Tracker → Tracker → Prop
  /-- In memory, one is recorded exactly if the other is. -/
  | memory {used known : List String} (recorded : one ∈ used ↔ other ∈ known) :
    Counterparts clock one other (.memory used) (.memory known)
  /-- In shared stores, one is live exactly if the other is. -/
  | shared {use : StoreUse} {store copy : Store} (script : store.script = copy.script)
    (live : store.isLive clock (use.keyStem ++ one) = copy.isLive clock (use.keyStem ++ other)) :
    Counterparts clock one other (.shared use store) (.shared use copy)

/-- The report of a store that does not answer depends on the fingerprint. -/
theorem withFingerprint_unavailableEntry (fingerprint reason mark : String) :
    (unavailableEntry fingerprint reason).withFingerprint mark = unavailableEntry mark reason := rfl

/-- By the rule of the store, claims of two equally live keys are answered alike, if both or neither
are refused for a live key. -/
theorem claimByRule_of_same_live {store copy : Store} {clock : Number} {claim second : Claim}
    (hlive : store.isLive clock claim.key = copy.isLive clock second.key)
    (habsent : claim.onlyIfAbsent = second.onlyIfAbsent)
    (hlifetime : claim.lifetime = second.lifetime) :
    (store.claimByRule clock claim).1 = (copy.claimByRule clock second).1 := by
  unfold Store.claimByRule
  rw [hlive, habsent, hlifetime]
  split
  · rfl
  · rcases clock.add second.lifetime with fault | expiry <;> rfl

/-- Stores with the same answers arranged answer claims of two equally live keys alike. -/
theorem claim_of_same_live {store copy : Store} {clock : Number} {claim second : Claim}
    (hscript : store.script = copy.script)
    (hlive : store.isLive clock claim.key = copy.isLive clock second.key)
    (habsent : claim.onlyIfAbsent = second.onlyIfAbsent)
    (hlifetime : claim.lifetime = second.lifetime) :
    (store.claim clock claim).1 = (copy.claim clock second).1 := by
  unfold Store.claim
  rw [← hscript]
  rcases store.script with _ | ⟨v | reason | reason, rest⟩
  · exact claimByRule_of_same_live hlive habsent hlifetime
  · rfl
  · rfl
  · rfl

/-- What a tracker on a store reports of an answer. -/
def storeReport (fingerprint : String) : Except Fault Bool → List Journal.Entry
  | .error (.storeUnavailable reason) => [unavailableEntry fingerprint reason]
  | _ => []

/-- The reports of one answer differ by the fingerprint. -/
theorem alike_storeReport (one other : String) (answer : Except Fault Bool) :
    Journal.Alike one other (storeReport one answer) (storeReport other answer) := by
  unfold storeReport
  split
  · exact .singleton (withFingerprint_unavailableEntry ..) (withFingerprint_unavailableEntry ..)
  · exact .nil

/-- A tracker on a store passes the answer of the store on. -/
theorem consume_shared {use : StoreUse} {remaining : Option Number} {lifetime : Number}
    (h : recordingTime use.retention remaining = .ok lifetime) (store : Store) (clock : Number)
    (nonce : String) :
    ∃ after, (shared use store).consume clock nonce remaining =
      ⟨(store.claim clock (claimOf use (Nonce.fingerprintOf nonce) lifetime)).1, after,
        storeReport (Nonce.fingerprintOf nonce)
          (store.claim clock (claimOf use (Nonce.fingerprintOf nonce) lifetime)).1⟩ := by
  unfold consume
  simp only [h]
  rcases store.claim clock (claimOf use (Nonce.fingerprintOf nonce) lifetime) with ⟨answer, after⟩
  refine ⟨.shared use after, ?_⟩
  dsimp only
  split
  · rename_i hanswer
    cases hanswer
    rfl
  · rename_i hother hanswer
    cases hanswer
    rw [storeReport]
    exact fun reason => hother reason

variable {clock : Number} {one other : String}

/-- **Trackers that know as much answer alike**, and what they report differs by the fingerprint. -/
theorem Counterparts.alike_consume {here there : Tracker}
    (h : Counterparts clock (Nonce.fingerprintOf one) (Nonce.fingerprintOf other) here there)
    (remaining : Option Number) :
    Step.Alike (Nonce.fingerprintOf one) (Nonce.fingerprintOf other)
      (here.consume clock one remaining) (there.consume clock other remaining) := by
  cases h with
  | @memory used known hrecorded =>
    by_cases hone : Nonce.fingerprintOf one ∈ used
    · rw [Emergency.consume_memory_of_mem hone,
        Emergency.consume_memory_of_mem (hrecorded.mp hone)]
      exact ⟨rfl, .nil⟩
    · rw [Emergency.consume_memory_of_not_mem hone,
        Emergency.consume_memory_of_not_mem (mt hrecorded.mpr hone)]
      exact ⟨rfl, .nil⟩
  | @shared use store copy hscript hlive =>
    rcases htime : recordingTime use.retention remaining with fault | lifetime
    · unfold consume
      simp only [htime]
      exact ⟨rfl, .nil⟩
    · have hclaim : (store.claim clock (claimOf use (Nonce.fingerprintOf one) lifetime)).1 =
          (copy.claim clock (claimOf use (Nonce.fingerprintOf other) lifetime)).1 :=
        claim_of_same_live hscript hlive rfl rfl
      obtain ⟨_, hhere⟩ := consume_shared htime store clock one
      obtain ⟨_, hthere⟩ := consume_shared htime copy clock other
      rw [hhere, hthere, hclaim]
      exact ⟨rfl, alike_storeReport _ _ _⟩

end Tracker

/-! ## Judgements side by side -/

namespace Emergency

/-- A rejection with another fingerprint in the place of the one that it names, if it names any. -/
def Rejection.withFingerprint (rejection : Rejection) (fingerprint : String) : Rejection :=
  match rejection with
  | .replayed _ => .replayed fingerprint
  | .unverifiable _ => .unverifiable fingerprint
  | other => other

section entries

variable (resource : Value) (caller : Caller)

/-- The report of a rejection shows the fingerprint that the rejection names. -/
theorem withFingerprint_deniedEntry (rejection : Rejection) (mark : String) :
    (deniedEntry resource caller rejection).withFingerprint mark =
      deniedEntry resource caller (rejection.withFingerprint mark) := by
  cases rejection <;> rfl

/-- A rejection that names a fingerprint is reported with the fingerprint that it names. -/
theorem alike_deniedEntry {one other : String} {rejection copy : Rejection}
    (hown : rejection.withFingerprint one = rejection)
    (hreplaced : rejection.withFingerprint other = copy) :
    Journal.Alike one other [deniedEntry resource caller rejection]
      [deniedEntry resource caller copy] := by
  apply Journal.Alike.singleton
  · rw [withFingerprint_deniedEntry, hown]
  · rw [withFingerprint_deniedEntry, hreplaced]

/-- The report of emergency access shows the fingerprint of the nonce and nothing else of it. -/
theorem withFingerprint_grantedEntry {grant copy : Grant} {vetted second : Vetted}
    (hreason : grant.reason = copy.reason) (hexpiration : vetted.expiration = second.expiration) :
    (grantedEntry resource caller grant vetted).withFingerprint
        (Nonce.fingerprintOf second.nonce) =
      grantedEntry resource caller copy second := by
  unfold grantedEntry
  rw [hreason, hexpiration]
  rfl

end entries

/-- What the trackers answer alike is redeemed alike. -/
theorem alike_redeem {clock : Number} {here there : Tracker} {grant copy : Grant}
    (vetted second : Vetted) (hreason : grant.reason = copy.reason)
    (hexpiration : vetted.expiration = second.expiration)
    (hremaining : vetted.remaining = second.remaining)
    (h : here.Counterparts clock (Nonce.fingerprintOf vetted.nonce)
      (Nonce.fingerprintOf second.nonce) there) (resource : Value) (caller : Caller) :
    Step.Alike (Nonce.fingerprintOf vetted.nonce) (Nonce.fingerprintOf second.nonce)
      (redeem clock here grant vetted resource caller)
      (redeem clock there copy second resource caller) := by
  have hconsume := h.alike_consume (some vetted.remaining)
  rcases hhere : here.consume clock vetted.nonce (some vetted.remaining) with
    ⟨answer, after, journal⟩
  rcases hthere : there.consume clock second.nonce (some vetted.remaining) with
    ⟨answer', later, journal'⟩
  rw [hhere, hthere] at hconsume
  rw [hremaining] at hthere
  obtain ⟨rfl : answer = answer', hjournal⟩ := hconsume
  -- the same answer of both trackers ends both runs in the same one of four ways
  rcases answer with fault | _ | _
  · by_cases hfault : ∃ reason, fault = .storeUnavailable reason
    · obtain ⟨reason, rfl⟩ := hfault
      rw [redeem_of_unavailable hhere, redeem_of_unavailable hthere]
      exact ⟨rfl, hjournal.append (alike_deniedEntry resource caller rfl rfl)⟩
    · rw [redeem_of_fault hhere hfault, redeem_of_fault hthere hfault]
      exact ⟨rfl, hjournal⟩
  · rw [redeem_of_replay hhere, redeem_of_replay hthere]
    exact ⟨rfl, hjournal.append (alike_deniedEntry resource caller rfl rfl)⟩
  · rw [redeem_of_first_use hhere, redeem_of_first_use hthere]
    exact ⟨rfl, hjournal.append (.singleton
      (withFingerprint_grantedEntry resource caller rfl rfl)
      (withFingerprint_grantedEntry resource caller hreason hexpiration))⟩

/-- The bare nonce of a grant with a text for a nonce is that text without outer blanks. -/
theorem text_bareNonce (grant : Grant) (nonce : String) :
    ({ grant with nonce := some (Nonce.ofText nonce) } : Grant).bareNonce.text =
      .ok (Text.strip nonce) := by
  show (Nonce.ofText nonce).strip.text = _
  rw [Nonce.strip_ofText, Nonce.text_ofText]

/-- What vetting makes of the remaining time of a grant, as far as it depends on the nonce. -/
theorem vetRemaining_of_text (longest remaining : Number) (expiration : Int) (grant : Grant)
    {nonce : String} (h : Text.strip nonce ≠ "") :
    vetRemaining longest { grant with nonce := some nonce } expiration remaining =
      if longest.lt remaining then
        (longest.floorDiv 60).text.map fun minutes => .error (.tooLong expiration longest minutes)
      else .ok (.ok ⟨expiration, remaining, Text.strip nonce⟩) := by
  split
  · rename_i hlong
    exact vetRemaining_of_long hlong
  · rename_i hshort
    exact vetRemaining_eq_vetted_iff.mpr
      ⟨rfl, rfl, Bool.eq_false_iff.mpr hshort, text_bareNonce grant nonce, h⟩

/-- **Vetting does not look into a nonce**, only whether it is blank: of two grants that differ in
their nonces, neither of them blank, it has no answer for both, rejects both alike without naming a
fingerprint, or lets both through. -/
theorem vet_cases_of_two_nonces (longest clock : Number) (grant : Grant) {one other : String}
    (hone : Text.strip one ≠ "") (hother : Text.strip other ≠ "") :
    (∃ fault, vet longest clock { grant with nonce := some one } = .error fault ∧
        vet longest clock { grant with nonce := some other } = .error fault) ∨
      (∃ rejection, vet longest clock { grant with nonce := some one } = .ok (.error rejection) ∧
        vet longest clock { grant with nonce := some other } = .ok (.error rejection) ∧
        ∀ mark, rejection.withFingerprint mark = rejection) ∨
      ∃ vetted : Vetted,
        vet longest clock { grant with nonce := some one } =
          .ok (.ok { vetted with nonce := Text.strip one }) ∧
        vet longest clock { grant with nonce := some other } =
          .ok (.ok { vetted with nonce := Text.strip other }) := by
  -- up to the remaining time both runs look at the expiration only, which is the same
  rcases hwritten : expirationText? grant.expiresAt with fault | _ | written
  · exact .inl ⟨fault, vet_of_unwritten_value longest clock hwritten,
      vet_of_unwritten_value longest clock hwritten⟩
  · exact .inr (.inl ⟨.missingExpiration, vet_of_unwritten longest clock hwritten,
      vet_of_unwritten longest clock hwritten, fun _ => rfl⟩)
  rcases hint : Numeral.int? written with _ | expiration
  · exact .inr (.inl ⟨.malformedExpiration, vet_of_unreadable longest clock hwritten hint,
      vet_of_unreadable longest clock hwritten hint, fun _ => rfl⟩)
  have hstated : ∀ nonce : String,
      ({ grant with nonce := some (Nonce.ofText nonce) } : Grant).statedExpiration? =
        some expiration :=
    fun _ => Grant.statedExpiration?_eq_some_iff_int?.mpr ⟨written, hwritten, hint⟩
  by_cases hpast : (Number.int expiration).le clock = true
  · exact .inr (.inl ⟨.expired expiration, vet_of_expired (hstated one) hpast,
      vet_of_expired (hstated other) hpast, fun _ => rfl⟩)
  rw [vet_of_later (hstated one) (Bool.eq_false_iff.mpr hpast),
    vet_of_later (hstated other) (Bool.eq_false_iff.mpr hpast)]
  rcases (Number.int expiration).sub clock with fault | remaining
  · exact .inl ⟨fault, rfl, rfl⟩
  rw [bind_of_eq_ok rfl, bind_of_eq_ok rfl, vetRemaining_of_text _ _ _ _ hone,
    vetRemaining_of_text _ _ _ _ hother]
  by_cases hlong : longest.lt remaining = true
  · rw [if_pos hlong, if_pos hlong]
    rcases (longest.floorDiv 60).text with fault | minutes
    · exact .inl ⟨fault, rfl, rfl⟩
    · exact .inr (.inl ⟨.tooLong expiration longest minutes, rfl, rfl, fun _ => rfl⟩)
  · rw [if_neg hlong, if_neg hlong]
    exact .inr (.inr ⟨⟨expiration, remaining, Text.strip one⟩, rfl, rfl⟩)

variable {clock : Number} {here there : Tracker} {one other : String}

/-- Judgements of two nonces by trackers that know as much of them differ by the fingerprint. -/
theorem alike_judge (longest : Number) (grant : Grant) (hone : Text.strip one ≠ "")
    (hother : Text.strip other ≠ "")
    (h : here.Counterparts clock (Nonce.fingerprintOf (Text.strip one))
      (Nonce.fingerprintOf (Text.strip other)) there) (resource : Value) (caller : Caller) :
    Step.Alike (Nonce.fingerprintOf (Text.strip one)) (Nonce.fingerprintOf (Text.strip other))
      (judge longest clock here { grant with nonce := some one } resource caller)
      (judge longest clock there { grant with nonce := some other } resource caller) := by
  rcases vet_cases_of_two_nonces longest clock grant hone hother with
    ⟨fault, hhere, hthere⟩ | ⟨rejection, hhere, hthere, hnameless⟩ |
    ⟨vetted, hhere, hthere⟩
  · rw [judge_of_fault hhere, judge_of_fault hthere]
    exact ⟨rfl, .nil⟩
  · rw [judge_of_rejected hhere, judge_of_rejected hthere]
    exact ⟨rfl, alike_deniedEntry resource caller (hnameless _) (hnameless _)⟩
  · rw [judge_of_vetted hhere, judge_of_vetted hthere]
    exact alike_redeem { vetted with nonce := Text.strip one }
      { vetted with nonce := Text.strip other } rfl rfl rfl h resource caller

/-- **The raw nonce never shows.** Let a grant be judged with one nonce and with another, neither of
them blank, by trackers that know as much of the fingerprint of the one as of that of the other.

1. The answers are the same.
2. With the same mark in the place of the fingerprint, the journals are the same: the same events at
   the same levels and in the same order, with the same fields and values.
3. Where an entry shows a fingerprint, it is that of the nonce that was presented. -/
theorem raw_nonce_never_shows (longest : Number) (grant : Grant) (hone : Text.strip one ≠ "")
    (hother : Text.strip other ≠ "")
    (h : here.Counterparts clock (Nonce.fingerprintOf (Text.strip one))
      (Nonce.fingerprintOf (Text.strip other)) there) (resource : Value) (caller : Caller) :
    let first := judge longest clock here { grant with nonce := some one } resource caller
    let second := judge longest clock there { grant with nonce := some other } resource caller
    first.result = second.result ∧
      (∀ mark, first.journal.map (·.withFingerprint mark) =
        second.journal.map (·.withFingerprint mark)) ∧
      (∀ entry ∈ first.journal, ∀ value, (Journal.fingerprintField, value) ∈ entry.fields →
        value = .text (Nonce.fingerprintOf (Text.strip one))) ∧
      ∀ entry ∈ second.journal, ∀ value, (Journal.fingerprintField, value) ∈ entry.fields →
        value = .text (Nonce.fingerprintOf (Text.strip other)) := by
  obtain ⟨hresult, hjournal⟩ := alike_judge longest grant hone hother h resource caller
  exact ⟨hresult, hjournal.map_eq, fun _ hentry _ => hjournal.eq_of_mem_here hentry,
    fun _ hentry _ => hjournal.eq_of_mem_there hentry⟩

/-- The judgement of a grant of one minute by a tracker in memory that holds the fingerprint of its
nonce. -/
def replayOf (nonce : String) : Step Decision :=
  judge (.int 3600) (.int 1800000000) (.memory [Nonce.fingerprintOf (Text.strip nonce)])
    { reason := some "outage", expiresAt := .text "1800000060", nonce := some nonce } (.text "a")
    ⟨some "u", "user"⟩

/-- Two used nonces are denied alike, and their reports differ by the fingerprint, which they
show. -/
theorem two_replays_show_alike :
    Text.strip "n" ≠ "" ∧ Text.strip " m " ≠ "" ∧
      Tracker.Counterparts (.int 1800000000) (Nonce.fingerprintOf (Text.strip "n"))
        (Nonce.fingerprintOf (Text.strip " m ")) (.memory [Nonce.fingerprintOf (Text.strip "n")])
        (.memory [Nonce.fingerprintOf (Text.strip " m ")]) ∧
      (replayOf "n").result = (replayOf " m ").result ∧
      (∀ mark, (replayOf "n").journal.map (·.withFingerprint mark) =
        (replayOf " m ").journal.map (·.withFingerprint mark)) ∧
      (replayOf "n").journal = [deniedEntry (.text "a") ⟨some "u", "user"⟩
        (.replayed (Nonce.fingerprintOf (Text.strip "n")))] := by
  have hn : Text.strip "n" ≠ "" := by decide +kernel
  have hm : Text.strip " m " ≠ "" := by decide +kernel
  have hknown : Tracker.Counterparts (.int 1800000000) (Nonce.fingerprintOf (Text.strip "n"))
      (Nonce.fingerprintOf (Text.strip " m ")) (.memory [Nonce.fingerprintOf (Text.strip "n")])
      (.memory [Nonce.fingerprintOf (Text.strip " m ")]) :=
    .memory (iff_of_true List.mem_cons_self List.mem_cons_self)
  obtain ⟨hresult, hjournal, -⟩ := raw_nonce_never_shows (.int 3600)
    ⟨some "outage", .text "1800000060", none⟩ hn hm hknown (.text "a") ⟨some "u", "user"⟩
  have hstated : (⟨some "outage", .text "1800000060", some "n"⟩ : Grant).statedExpiration? =
      some 1800000060 := by decide +kernel
  have htext := text_bareNonce ⟨some "outage", .text "1800000060", none⟩ "n"
  have hvet := vet_of_window hstated htext hn (by decide : 1800000060 - 3600 ≤ (1800000000 : Int))
    (by decide)
  exact ⟨hn, hm, hknown, hresult, hjournal,
    congrArg Step.journal (judge_memory_of_known hvet List.mem_cons_self _ _)⟩

end Emergency

end SecretAccess
