import SecretAccess.Audit.Record
import SecretAccess.Proofs.Service.Exits
import SecretAccess.Proofs.Service.SingleUse

/-!
# The trail of decisions

Three things are kept of emergency access, each by a part of its own: the fingerprint in the
tracker, the entry of the judgement in the journal, and the audit record of the decision. This file
shows that they tell the same story.

A *filing* is a call about one secret or category, with what its decision is put on record with. Its
*trail* is what the call reports, followed by the entry of the record.

* **The report of a judgement** (`Emergency.journal_judge_memory`): with a tracker in memory a
  judgement reports one entry, which is that of its decision, unless it has no answer.
* **One filing** (`Filing.shows`, `Filing.countOf_trail`): the trail of an answered call shows a
  judgement exactly if an authenticated caller presents a grant and names something that passes, and
  shows one record. The events of emergency access are in it once if the call gives such access.
* **The run** (`trail_matches_decisions`): the judgements that give access, the records of emergency
  access and the fingerprints in the tracker are equally many.
-/

namespace SecretAccess

/-! ## Kinds of entries -/

namespace Journal

/-- The events that report a judgement. -/
def judgementEvents : List String := ["break_glass_granted", "break_glass_denied"]

/-- The events that put a decision on record. -/
def recordEvents : List String :=
  ["AUDIT:SECRETS:ACCESS", "AUDIT:SECRETS:BREAKGLASS", "AUDIT:SECRETS:DENIED"]

/-- The events that report what permissions decide. -/
def permissionEvents : List String :=
  ["permission_ignored", "access_granted", "access_denied", "category_access_denied"]

/-- Whether an entry reports a judgement. -/
def Entry.isJudgement (entry : Entry) : Bool := judgementEvents.contains entry.event

/-- Whether an entry puts a decision on record. -/
def Entry.isRecord (entry : Entry) : Bool := recordEvents.contains entry.event

/-- Entries about permissions are neither judgements nor records. -/
theorem filter_of_permissionEvents {entries : List Entry}
    (h : ∀ entry ∈ entries, entry.event ∈ permissionEvents) :
    entries.filter Entry.isJudgement = [] ∧ entries.filter Entry.isRecord = [] := by
  have hdisjoint : ∀ event ∈ permissionEvents,
      judgementEvents.contains event = false ∧ recordEvents.contains event = false := by decide
  refine ⟨List.filter_eq_nil_iff.mpr ?_, List.filter_eq_nil_iff.mpr ?_⟩
  · intro entry hentry
    exact Bool.eq_false_iff.mp (hdisjoint _ (h entry hentry)).1
  · intro entry hentry
    exact Bool.eq_false_iff.mp (hdisjoint _ (h entry hentry)).2

end Journal

open Journal

/-! ## What permissions report -/

namespace Service

/-- Permissions without a scope are reported as ignored. -/
theorem event_mem_of_ignored {known : List String} {permissions : List Value} {entry : Entry}
    (h : entry ∈ (Scope.ofValues known permissions).2) : entry.event ∈ permissionEvents := by
  rw [Scope.ofValues_eq_passes] at h
  obtain ⟨permission, -, rfl⟩ := List.mem_map.mp h
  exact List.mem_cons_self

variable {service : Service} {principal : Principal} {action : Action} {resource : String}
  {entry : Entry}

/-- What is reported of a secret that permissions decide about. -/
theorem event_mem_of_permit (h : entry ∈ (service.permit principal action resource).2) :
    entry.event ∈ permissionEvents := by
  unfold permit at h
  dsimp only at h
  split at h
  all_goals
    rcases List.mem_append.mp h with h | h
    · exact event_mem_of_ignored h
    · rw [List.mem_singleton.mp h]
      simp [permissionEvents, grantedEntry, deniedEntry]

/-- What is reported of a category that permissions decide about. -/
theorem event_mem_of_permitCategory
    (h : entry ∈ (service.permitCategory principal action resource).2) :
    entry.event ∈ permissionEvents := by
  unfold permitCategory at h
  dsimp only at h
  split at h
  · exact event_mem_of_ignored h
  · rcases List.mem_append.mp h with h | h
    · exact event_mem_of_ignored h
    · rw [List.mem_singleton.mp h]
      simp [permissionEvents, categoryDeniedEntry]

end Service

/-! ## What a judgement reports -/

namespace Emergency

/-- **The report of a judgement.** With a tracker in memory a judgement has no answer and reports
nothing, or it reports the one entry of its decision. -/
theorem journal_judge_memory (longest clock : Number) (used : List String) (grant : Grant)
    (resource : Value) (caller : Caller) :
    let step := judge longest clock (.memory used) grant resource caller
    (∃ fault, step.result = .error fault ∧ step.journal = []) ∨
      (∃ vetted, step.result = .ok (.grantEmergency caller) ∧
        step.journal = [grantedEntry resource caller grant vetted]) ∨
      ∃ rejection, step.result = .ok (denial caller rejection) ∧
        step.journal = [deniedEntry resource caller rejection] := by
  intro step
  rcases hvet : vet longest clock grant with fault | rejection | vetted
  · have hstep : step = _ := judge_of_fault hvet (.memory used) resource caller
    rw [hstep]
    exact .inl ⟨fault, rfl, rfl⟩
  · have hstep : step = _ := judge_of_rejected hvet (.memory used) resource caller
    rw [hstep]
    exact .inr (.inr ⟨rejection, rfl, rfl⟩)
  · by_cases hmem : Nonce.fingerprintOf vetted.nonce ∈ used
    · have hstep : step = _ := judge_memory_of_known hvet hmem resource caller
      rw [hstep]
      exact .inr (.inr ⟨_, rfl, rfl⟩)
    · have hstep : step = _ := judge_memory_of_new hvet hmem resource caller
      rw [hstep]
      exact .inr (.inl ⟨vetted, rfl, rfl⟩)

end Emergency

/-! ## Filings -/

/-- Whether a call asks for one decision: about a secret or a category. -/
def Target.isOne : Target → Bool
  | .secret _ | .category _ => true
  | .several _ => false

/-- A call for one decision, with what the decision is put on record with. -/
structure Filing where
  /-- The call. -/
  call : Call
  /-- It asks for one decision. -/
  one : call.target.isOne = true
  /-- What the record says the decision is about. -/
  resource : Value
  /-- When the record says it was made. -/
  moment : Moment
  /-- The identity of the request among others, if it has one. -/
  correlationId : Option String

namespace Filing

/-- Whether an authenticated caller presents a grant and names something that passes. -/
def IsJudged (filing : Filing) : Prop :=
  filing.call.NamesOne ∧ filing.call.principal.grant ≠ none

/-- The decision of the call, if it is answered. -/
def decision? (filing : Filing) (tracker : Tracker) : Option Decision :=
  match (filing.call.step tracker).result with
  | .ok (.decision decision) => some decision
  | _ => none

/-- The entry of the record of a decision. -/
def recordEntry (filing : Filing) (decision : Decision) : Entry :=
  (Audit.record decision filing.resource filing.call.action filing.correlationId
    filing.moment).entry

/-- What a filing leaves behind: what the call reports, then the record of its decision. -/
def trail (filing : Filing) (tracker : Tracker) : List Entry :=
  (filing.call.step tracker).journal ++
    (filing.decision? tracker).toList.map filing.recordEntry

/-! ### The four ways a filing ends -/

/-- The ways in which a filing ends: its decision, its trail, and whether there is emergency
access. -/
inductive Ending (filing : Filing) : Option Decision → List Entry → Bool → Prop
  /-- A judgement has no answer, and nothing is left behind. -/
  | unanswered (h : filing.IsJudged) : Ending filing none [] false
  /-- A judgement gives access. -/
  | granted (h : filing.IsJudged) (resource : Value) (grant : Grant) (vetted : Emergency.Vetted) :
    Ending filing (some (.grantEmergency filing.call.principal.caller))
      [Emergency.grantedEntry resource filing.call.principal.caller grant vetted,
        filing.recordEntry (.grantEmergency filing.call.principal.caller)] true
  /-- A judgement gives none. -/
  | denied (h : filing.IsJudged) (resource : Value) (rejection : Emergency.Rejection) :
    Ending filing (some (Emergency.denial filing.call.principal.caller rejection))
      [Emergency.deniedEntry resource filing.call.principal.caller rejection,
        filing.recordEntry (Emergency.denial filing.call.principal.caller rejection)] false
  /-- The call is refused or decided by permissions. -/
  | plain (h : ¬filing.IsJudged) {decision : Decision} (hno : decision.isEmergency = false)
    {journal : List Entry} (hjournal : ∀ entry ∈ journal, entry.event ∈ permissionEvents) :
    Ending filing (some decision) (journal ++ [filing.recordEntry decision]) false

/-- What a filing leaves behind whose call is answered. -/
theorem trail_of_step {filing : Filing} {tracker after : Tracker} {decision : Decision}
    {journal : List Entry}
    (h : filing.call.step tracker = ⟨.ok (.decision decision), after, journal⟩) :
    filing.decision? tracker = some decision ∧
      filing.trail tracker = journal ++ [filing.recordEntry decision] ∧
      (filing.call.step tracker).givesEmergency =
        (decision.isAuthorized && decision.isEmergency) := by
  have hdecision : filing.decision? tracker = some decision := by
    unfold decision?
    rw [h]
  refine ⟨hdecision, ?_, ?_⟩
  · unfold trail
    rw [hdecision, h]
    rfl
  · rw [h]
    rfl

/-- **A filing that is not judged** is decided without the tracker, gives no emergency access, and
reports nothing but permissions. -/
theorem step_of_not_isJudged {filing : Filing} (h : ¬filing.IsJudged) :
    ∃ decision journal,
      (∀ tracker, filing.call.step tracker = ⟨.ok (.decision decision), tracker, journal⟩) ∧
      decision.isEmergency = false ∧ ∀ entry ∈ journal, entry.event ∈ permissionEvents := by
  obtain ⟨⟨service, clock, principal, target, action⟩, one, resource, moment, correlationId⟩ :=
    filing
  -- a call that is admitted and not judged can only lack the grant
  cases target with
  | secret name =>
    rcases hadmit : Service.admission principal name with denial | secret
    · obtain ⟨caller, code, reason, rfl⟩ := Service.eq_deny_of_admission_eq_error hadmit
      exact ⟨_, [], fun tracker => congrArg (Step.map _) (Service.authorize_of_refused hadmit), rfl,
        nofun⟩
    · obtain ⟨hauthenticated, hcheck⟩ := Service.check_of_admission_eq_ok hadmit
      have hnone : principal.grant = none := by
        by_contra hgrant
        exact h ⟨⟨hauthenticated, secret, hcheck⟩, hgrant⟩
      exact ⟨_, _,
        fun tracker => congrArg (Step.map _) (Service.authorize_of_no_grant hadmit hnone),
        Service.isEmergency_permit service principal action secret,
        fun entry => Service.event_mem_of_permit⟩
  | category name =>
    rcases hadmit : service.categoryAdmission principal name with denial | category
    · obtain ⟨caller, code, reason, rfl⟩ := Service.eq_deny_of_categoryAdmission_eq_error hadmit
      exact ⟨_, [],
        fun tracker => congrArg (Step.map _) (Service.authorizeCategory_of_refused hadmit), rfl,
        nofun⟩
    · obtain ⟨hauthenticated, hname, hadmits⟩ := Service.admits_of_categoryAdmission_eq_ok hadmit
      have hnone : principal.grant = none := by
        by_contra hgrant
        exact h ⟨⟨hauthenticated, category, hname, hadmits⟩, hgrant⟩
      exact ⟨_, _,
        fun tracker => congrArg (Step.map _) (Service.authorizeCategory_of_no_grant hadmit hnone),
        Service.isEmergency_permitCategory service principal action category,
        fun entry => Service.event_mem_of_permitCategory⟩
  | several names => cases one

/-- **A filing ends in one of four ways**, with a tracker in memory. -/
theorem ending (filing : Filing) (used : List String) :
    filing.Ending (filing.decision? (.memory used)) (filing.trail (.memory used))
      (filing.call.step (.memory used)).givesEmergency := by
  by_cases hjudged : filing.IsJudged
  · obtain ⟨hone, hsome⟩ := hjudged
    obtain ⟨grant, hgrant⟩ := Option.ne_none_iff_exists'.mp hsome
    obtain ⟨resource, hstep⟩ := Call.step_of_namesOne hgrant hone
    have hcall := hstep (.memory used)
    rcases hjudge : Emergency.judge filing.call.service.longestGrant filing.call.clock
      (.memory used) grant resource filing.call.principal.caller with ⟨result, after, journal⟩
    have hreport := Emergency.journal_judge_memory filing.call.service.longestGrant
      filing.call.clock used grant resource filing.call.principal.caller
    rw [hjudge] at hcall hreport
    rcases hreport with ⟨fault, rfl, rfl⟩ | ⟨vetted, rfl, rfl⟩ | ⟨rejection, rfl, rfl⟩
    · unfold trail decision?
      rw [hcall]
      exact .unanswered ⟨hone, hsome⟩
    · obtain ⟨hdecision, htrail, hgives⟩ := trail_of_step hcall
      rw [hdecision, htrail, hgives]
      exact .granted ⟨hone, hsome⟩ resource grant vetted
    · obtain ⟨hdecision, htrail, hgives⟩ := trail_of_step hcall
      rw [hdecision, htrail, hgives]
      exact .denied ⟨hone, hsome⟩ resource rejection
  · obtain ⟨decision, journal, hstep, hno, hjournal⟩ := step_of_not_isJudged hjudged
    obtain ⟨hdecision, htrail, hgives⟩ := trail_of_step (hstep (.memory used))
    rw [hdecision, htrail, hgives, hno, Bool.and_false]
    exact .plain hjudged hno hjournal

end Filing

/-! ## What a trail shows -/

namespace Journal.Entry

/-- Whether an entry is the report of a judgement that comes to a decision. -/
structure Reports (entry : Entry) (decision : Decision) : Prop where
  /-- It is a warning. -/
  level : entry.level = .warning
  /-- Access is reported as such. -/
  granted : decision.isAuthorized = true → entry.event = "break_glass_granted"
  /-- A denial is reported with its code. -/
  denied : decision.isAuthorized = false → entry.event = "break_glass_denied" ∧
    ∃ code, decision.code? = some code ∧
      entry.fields.lookup "denial_code" = some (.text code.word)

/-- Whether an entry is the audit record of a decision, by its event and level. -/
structure Records (entry : Entry) (decision : Decision) : Prop where
  /-- A denial is recorded as a warning. -/
  denied : decision.isAuthorized = false →
    entry.event = "AUDIT:SECRETS:DENIED" ∧ entry.level = .warning
  /-- Ordinary access is recorded as information. -/
  ordinary : decision.isAuthorized = true → decision.isEmergency = false →
    entry.event = "AUDIT:SECRETS:ACCESS" ∧ entry.level = .info
  /-- Emergency access is recorded as a warning. -/
  emergency : decision.isAuthorized = true → decision.isEmergency = true →
    entry.event = "AUDIT:SECRETS:BREAKGLASS" ∧ entry.level = .warning

end Journal.Entry

namespace Filing

/-- What the trail of an answered filing shows of its decision. -/
structure Shows (filing : Filing) (trail : List Entry) (decision : Decision) : Prop where
  /-- One judgement, if the filing is judged. -/
  judged : filing.IsJudged →
    ∃ entry, trail.filter Entry.isJudgement = [entry] ∧ entry.Reports decision
  /-- No judgement otherwise. -/
  unjudged : ¬filing.IsJudged → trail.filter Entry.isJudgement = []
  /-- One record. -/
  recorded : ∃ entry, trail.filter Entry.isRecord = [entry] ∧ entry.Records decision

/-- The entry of a record is the audit record of the decision. -/
theorem records_recordEntry (filing : Filing) (decision : Decision) :
    (filing.recordEntry decision).Records decision := by
  constructor
  · intro hdenied
    simp [recordEntry, Audit.Record.entry, Audit.Record.event, Audit.record, hdenied]
  · intro hgranted hordinary
    simp [recordEntry, Audit.Record.entry, Audit.Record.event, Audit.record, hgranted, hordinary]
  · intro hgranted hemergency
    simp [recordEntry, Audit.Record.entry, Audit.Record.event, Audit.record, hgranted, hemergency]

/-- The event of a record is one of three. -/
theorem event_recordEntry_mem (filing : Filing) (decision : Decision) :
    (filing.recordEntry decision).event ∈ recordEvents := by
  have hrecords := filing.records_recordEntry decision
  rcases hauthorized : decision.isAuthorized with _ | _
  · rw [(hrecords.denied hauthorized).1]
    decide
  · rcases hemergency : decision.isEmergency with _ | _
    · rw [(hrecords.ordinary hauthorized hemergency).1]
      decide
    · rw [(hrecords.emergency hauthorized hemergency).1]
      decide

/-- The entry of a record is a record and no judgement. -/
theorem kind_recordEntry (filing : Filing) (decision : Decision) :
    (filing.recordEntry decision).isRecord = true ∧
      (filing.recordEntry decision).isJudgement = false := by
  have hkinds : ∀ event ∈ recordEvents,
      recordEvents.contains event = true ∧ judgementEvents.contains event = false := by decide
  exact hkinds _ (filing.event_recordEntry_mem decision)

/-- The trail of a judgement with an answer shows its report and its record. -/
theorem Shows.of_judged {filing : Filing} (h : filing.IsJudged) {report : Entry}
    {decision : Decision} (hkind : report.isJudgement = true) (hother : report.isRecord = false)
    (hreport : report.Reports decision) :
    filing.Shows [report, filing.recordEntry decision] decision := by
  obtain ⟨hrecord, hunjudged⟩ := filing.kind_recordEntry decision
  refine ⟨fun _ => ⟨report, ?_, hreport⟩, fun hno => absurd h hno,
    filing.recordEntry decision, ?_, filing.records_recordEntry decision⟩
  · rw [List.filter_cons_of_pos hkind, List.filter_cons_of_neg (by rw [hunjudged]; decide),
      List.filter_nil]
  · rw [List.filter_cons_of_neg (by rw [hother]; decide), List.filter_cons_of_pos hrecord,
      List.filter_nil]

/-- **What an answered filing leaves behind**, with a tracker in memory. -/
theorem shows {filing : Filing} {used : List String} {decision : Decision}
    (h : filing.decision? (.memory used) = some decision) :
    filing.Shows (filing.trail (.memory used)) decision := by
  have hending := filing.ending used
  rw [h] at hending
  generalize filing.trail (.memory used) = trail at hending
  generalize (filing.call.step (.memory used)).givesEmergency = gives at hending
  cases hending with
  | granted hjudged resource grant vetted =>
    exact .of_judged hjudged rfl rfl ⟨rfl, fun _ => rfl, nofun⟩
  | denied hjudged resource rejection =>
    exact .of_judged hjudged rfl rfl ⟨rfl, nofun, fun _ => ⟨rfl, rejection.code, rfl, rfl⟩⟩
  | @plain hunjudged _ hno journal hjournal =>
    obtain ⟨hjudgements, hrecords⟩ := filter_of_permissionEvents hjournal
    obtain ⟨hrecord, hother⟩ := filing.kind_recordEntry decision
    refine ⟨fun hjudged => absurd hjudged hunjudged, fun _ => ?_,
      filing.recordEntry decision, ?_, filing.records_recordEntry decision⟩
    · rw [List.filter_append, hjudgements, List.filter_cons_of_neg (by rw [hother]; decide)]
      rfl
    · rw [List.filter_append, hrecords, List.filter_cons_of_pos hrecord]
      rfl

end Filing

/-! ## Counting emergency accesses -/

namespace Journal

/-- The events that an emergency access leaves behind: the report of the judgement and the record of
the decision. -/
def accessEvents : List String := ["break_glass_granted", "AUDIT:SECRETS:BREAKGLASS"]

/-- How many entries have an event. -/
def countOf (event : String) (entries : List Entry) : Nat := entries.countP (·.event == event)

/-- The entries of two lists are counted apart. -/
theorem countOf_append (event : String) (entries others : List Entry) :
    countOf event (entries ++ others) = countOf event entries + countOf event others :=
  List.countP_append

/-- Entries about permissions have none of the events of emergency access. -/
theorem countOf_of_permissionEvents {entries : List Entry}
    (h : ∀ entry ∈ entries, entry.event ∈ permissionEvents) :
    ∀ event ∈ accessEvents, countOf event entries = 0 := by
  have hdisjoint : ∀ event ∈ accessEvents, ∀ other ∈ permissionEvents,
      (other == event) = false := by decide
  intro event hevent
  refine List.countP_eq_zero.mpr fun entry hentry => ?_
  exact Bool.eq_false_iff.mp (hdisjoint event hevent _ (h entry hentry))

end Journal

namespace Filing

/-- The record of a decision without emergency access does not count as one. -/
theorem countOf_recordEntry (filing : Filing) {decision : Decision}
    (h : decision.isEmergency = false) :
    ∀ event ∈ accessEvents, countOf event [filing.recordEntry decision] = 0 := by
  have hevent : (filing.recordEntry decision).event ∈
      ["AUDIT:SECRETS:DENIED", "AUDIT:SECRETS:ACCESS"] := by
    have hrecords := filing.records_recordEntry decision
    rcases hauthorized : decision.isAuthorized with _ | _
    · rw [(hrecords.denied hauthorized).1]
      decide
    · rw [(hrecords.ordinary hauthorized h).1]
      decide
  have hdisjoint : ∀ event ∈ accessEvents,
      ∀ other ∈ ["AUDIT:SECRETS:DENIED", "AUDIT:SECRETS:ACCESS"], (other == event) = false := by
    decide
  intro event haccess
  unfold countOf
  rw [List.countP_singleton, hdisjoint event haccess _ hevent]
  rfl

/-- **One filing** leaves each event of emergency access behind once if it gives such access, and
not at all otherwise. -/
theorem countOf_trail (filing : Filing) (used : List String) :
    ∀ event ∈ accessEvents, countOf event (filing.trail (.memory used)) =
      (filing.call.step (.memory used)).givesEmergency.toNat := by
  have hending := filing.ending used
  generalize filing.trail (.memory used) = trail at hending ⊢
  generalize filing.decision? (.memory used) = decision at hending
  generalize (filing.call.step (.memory used)).givesEmergency = gives at hending ⊢
  intro event hevent
  cases hending with
  | unanswered => rfl
  | granted hjudged resource grant vetted =>
    have heither : event = "break_glass_granted" ∨ event = "AUDIT:SECRETS:BREAKGLASS" := by
      simpa [accessEvents] using hevent
    rcases heither with rfl | rfl
    · rfl
    · rfl
  | denied hjudged resource rejection =>
    have hreport : ∀ event ∈ accessEvents, ("break_glass_denied" == event) = false := by decide
    rw [← List.singleton_append, countOf_append, filing.countOf_recordEntry rfl event hevent]
    unfold countOf
    rw [List.countP_singleton]
    change (if ("break_glass_denied" == event) = true then 1 else 0) + 0 = _
    rw [hreport event hevent]
    rfl
  | plain hunjudged hno hjournal =>
    rw [countOf_append, filing.countOf_recordEntry hno event hevent,
      countOf_of_permissionEvents hjournal event hevent]
    rfl

end Filing

/-! ## Runs -/

/-- One filing of a run and the tracker that its call meets. -/
structure Filed where
  /-- The tracker before the call. -/
  before : Tracker
  /-- The filing. -/
  filing : Filing

namespace Filed

/-- The decision of the call, if it is answered. -/
def decision? (filed : Filed) : Option Decision := filed.filing.decision? filed.before

/-- What the filing leaves behind. -/
def trail (filed : Filed) : List Entry := filed.filing.trail filed.before

end Filed

/-- The filings of a run that starts with the given tracker. -/
def filedFrom (tracker : Tracker) : List Filing → List Filed
  | [] => []
  | filing :: rest => ⟨tracker, filing⟩ :: filedFrom (filing.call.step tracker).tracker rest

/-- What a run leaves behind. -/
def trailFrom (tracker : Tracker) (filings : List Filing) : List Entry :=
  (filedFrom tracker filings).flatMap Filed.trail

/-- The filings of a run are its turns with what they are put on record with. -/
theorem turns_of_filedFrom (tracker : Tracker) (filings : List Filing) :
    turns tracker (filings.map Filing.call) =
      (filedFrom tracker filings).map fun filed => ⟨filed.before, filed.filing.call⟩ := by
  induction filings generalizing tracker with
  | nil => rfl
  | cons filing rest ih => rw [List.map_cons, turns, filedFrom, List.map_cons, ih]

/-- A run that starts with a tracker in memory meets trackers in memory only. -/
theorem before_memory_of_mem_filedFrom {filings : List Filing} {used : List String} {filed : Filed}
    (h : filed ∈ filedFrom (.memory used) filings) : ∃ known, filed.before = .memory known := by
  have hturn : (⟨filed.before, filed.filing.call⟩ : Turn) ∈
      turns (.memory used) (filings.map Filing.call) := by
    rw [turns_of_filedFrom]
    exact List.mem_map_of_mem h
  exact before_memory_of_mem_turns hturn

/-- A run leaves each event of emergency access behind as often as it gives such access. -/
theorem countOf_trailFrom {event : String} (hevent : event ∈ accessEvents) (filings : List Filing)
    (used : List String) :
    countOf event (trailFrom (.memory used) filings) =
      (emergencyTurns (.memory used) (filings.map Filing.call)).length := by
  induction filings generalizing used with
  | nil => rfl
  | cons filing rest ih =>
    have htrail : trailFrom (.memory used) (filing :: rest) = filing.trail (.memory used) ++
        trailFrom (filing.call.step (.memory used)).tracker rest := rfl
    rw [htrail, countOf_append, filing.countOf_trail used event hevent, List.map_cons]
    -- either way the rest of the run meets a tracker in memory, as the induction needs
    rcases filing.call.step_memory_cases used with
      ⟨nonce, hnonce, -, hyes, htracker⟩ | ⟨hno, htracker⟩
    · rw [(spends_cons_of_emergency hyes hnonce _).1, hyes, htracker, ih, List.length_cons,
        Bool.toNat_true, Nat.add_comm]
    · rw [(spends_cons_of_no_emergency hno _).1, hno, htracker, ih, Bool.toNat_false, Nat.zero_add]

/-- **The trail matches the decisions.** Let any filings meet one after another a tracker that is
empty at first, whatever the services, callers, names, actions and clock readings.

1. The trail of every answered filing shows one record, which is that of its decision: a denial and
   emergency access as warnings, ordinary access as information. It shows one judgement, which is
   that of its decision, if an authenticated caller presents a grant and names something that
   passes, and none otherwise.
2. At the end, the judgements that give access, the records of emergency access and the fingerprints
   in the tracker, all of them different, are equally many. -/
theorem trail_matches_decisions (filings : List Filing) :
    (∀ filed ∈ filedFrom .empty filings, ∀ decision, filed.decision? = some decision →
        filed.filing.Shows filed.trail decision) ∧
      ∃ used, trackerAfter .empty (filings.map Filing.call) = .memory used ∧ used.Nodup ∧
        countOf "break_glass_granted" (trailFrom .empty filings) = used.length ∧
        countOf "AUDIT:SECRETS:BREAKGLASS" (trailFrom .empty filings) = used.length := by
  refine ⟨?_, ?_⟩
  · rintro ⟨before, filing⟩ hfiled decision hdecision
    obtain ⟨known, rfl⟩ : ∃ known, before = .memory known :=
      before_memory_of_mem_filedFrom hfiled
    exact Filing.shows hdecision
  · obtain ⟨hend, hlength⟩ := trackerAfter_memory (filings.map Filing.call) []
    have hnodup := nodup_append_spentNonces (filings.map Filing.call) [] List.nodup_nil
    rw [List.nil_append] at hend hnodup
    refine ⟨_, hend, hnodup, ?_, ?_⟩
    · rw [List.length_map, hlength]
      exact countOf_trailFrom (by decide) filings []
    · rw [List.length_map, hlength]
      exact countOf_trailFrom (by decide) filings []

/-- A grant is honoured once; a caller without one leaves no judgement behind. -/
example :
    let filing (grant : Option Grant) : Filing :=
      ⟨⟨⟨⟨[]⟩, .int 3600⟩, .int 1800000000, ⟨⟨some "u", "user"⟩, [.text "secrets:*"], grant, true⟩,
        .secret (.text "a"), .read⟩, rfl, .text "a", ⟨2027, 1, 15, 8, 0, 0, 0, some 0⟩, none⟩
    let grant : Grant := ⟨some "outage", .text "1800000060", some "n"⟩
    (trailFrom .empty [filing (some grant), filing (some grant), filing none]).map (·.event) =
      ["break_glass_granted", "AUDIT:SECRETS:BREAKGLASS", "break_glass_denied",
        "AUDIT:SECRETS:DENIED", "access_granted", "AUDIT:SECRETS:ACCESS"] := by
  decide +kernel

end SecretAccess
