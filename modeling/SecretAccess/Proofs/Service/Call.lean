import SecretAccess.Proofs.Emergency.Vetting
import SecretAccess.Service.Basic

/-!
# Calls of a service

A *call* is one request with all that it depends on: the service, the clock reading, the caller, the
resource or resources, and the action. Calls of different services can thus stand in one list and
share a tracker.

What a call does to the tracker is decided by one question, `Call.judged?`: which grant, if any, is
the call judged by? It is the grant of the caller, provided that the caller is authenticated and
something that the call names is admitted.

* **`Call.step_of_judged`**: a call that is judged by a grant is that judgement and nothing else;
  its answer gives emergency access exactly if the judgement does.
* **`Call.isPlain_of_unjudged`**: any other call has one answer whatever the tracker, leaves the
  tracker alone and gives no emergency access.

Every statement about runs of calls rests on these two, so that the three entry points are taken
apart here once.
-/

namespace SecretAccess

/-! ## The three gates, one equation each

Which gate answers depends on admission and on the grant only, so each equation below holds for
every tracker. -/

/-- Change the answer of a step and nothing else. -/
def Step.map {α β : Type} (f : α → β) (step : Step α) : Step β :=
  ⟨step.result.map f, step.tracker, step.journal⟩

/-- Two changes of an answer are one. -/
@[simp] theorem Step.map_map {α β γ : Type} (f : α → β) (g : β → γ) (step : Step α) :
    (step.map f).map g = step.map (g ∘ f) := by
  obtain ⟨result, tracker, journal⟩ := step
  rcases result with fault | answer <;> rfl

/-- A changed answer is the change of an answer. -/
theorem Step.result_map_eq_ok_iff {α β : Type} {f : α → β} {step : Step α} {answer : β} :
    (step.map f).result = .ok answer ↔ ∃ given, step.result = .ok given ∧ f given = answer := by
  obtain ⟨result, tracker, journal⟩ := step
  unfold Step.map
  rcases result with fault | given <;> simp [Except.map]

namespace Service

section gates

variable {service : Service} {clock : Number} {tracker : Tracker} {principal : Principal}
  {name : Value} {names : List Value} {action : Action} {resource : String} {grant : Grant}

/-- An authenticated principal is admitted by a name that passes. -/
theorem admission_of_check (hauthenticated : principal.authenticated = true)
    (hcheck : ResourceName.check name = .ok resource) :
    admission principal name = .ok resource := by
  unfold admission
  rw [if_pos hauthenticated, hcheck]

/-- A refused request for a secret is answered with the denial of its admission. -/
theorem authorize_of_refused {denial : Decision} (h : admission principal name = .error denial) :
    service.authorize clock tracker principal name action = untouched tracker (denial, []) := by
  unfold authorize
  rw [h]

/-- An admitted request for a secret by a principal with a grant is the judgement of the grant. -/
theorem authorize_of_grant (h : admission principal name = .ok resource)
    (hgrant : principal.grant = some grant) :
    service.authorize clock tracker principal name action =
      Emergency.judge service.longestGrant clock tracker grant (.text resource)
        principal.caller := by
  unfold authorize
  rw [h, hgrant]

/-- Any other admitted request for a secret is decided by permissions. -/
theorem authorize_of_no_grant (h : admission principal name = .ok resource)
    (hgrant : principal.grant = none) :
    service.authorize clock tracker principal name action =
      untouched tracker (service.permit principal action resource) := by
  unfold authorize
  rw [h, hgrant]

/-- A refused request for a category is answered with the denial of its admission. -/
theorem authorizeCategory_of_refused {denial : Decision}
    (h : service.categoryAdmission principal name = .error denial) :
    service.authorizeCategory clock tracker principal name action =
      untouched tracker (denial, []) := by
  unfold authorizeCategory
  rw [h]

/-- An admitted request for a category by a principal with a grant is the judgement of the grant. -/
theorem authorizeCategory_of_grant (h : service.categoryAdmission principal name = .ok resource)
    (hgrant : principal.grant = some grant) :
    service.authorizeCategory clock tracker principal name action =
      Emergency.judge service.longestGrant clock tracker grant (.text ("category:" ++ resource))
        principal.caller := by
  unfold authorizeCategory
  rw [h, hgrant]

/-- Any other admitted request for a category is decided by permissions. -/
theorem authorizeCategory_of_no_grant
    (h : service.categoryAdmission principal name = .ok resource)
    (hgrant : principal.grant = none) :
    service.authorizeCategory clock tracker principal name action =
      untouched tracker (service.permitCategory principal action resource) := by
  unfold authorizeCategory
  rw [h, hgrant]

/-- A batch with an admitted name by a principal with a grant is one judgement of the grant, whose
decision all admitted names get. -/
theorem authorizeNames_of_grant (h : admitted principal names ≠ [])
    (hgrant : principal.grant = some grant) :
    service.authorizeNames clock tracker principal names action =
      (Emergency.judge service.longestGrant clock tracker grant
        (.text ("batch:" ++ Text.join "," (admitted principal names))) principal.caller).map
        (batchOf (admitted principal names) (refused principal names)) := by
  have hnames : names.isEmpty = false := by
    rcases names with _ | ⟨first, rest⟩
    · exact absurd rfl h
    · rfl
  obtain ⟨first, rest, hcons⟩ := List.exists_cons_of_ne_nil h
  unfold authorizeNames
  simp only [hnames, hcons, hgrant, Bool.false_eq_true, if_false]
  rfl

/-- Any other batch that names something is decided by permissions. -/
theorem authorizeNames_of_no_judgement (hnames : names ≠ [])
    (h : admitted principal names = [] ∨ principal.grant = none) :
    service.authorizeNames clock tracker principal names action =
      untouched tracker (service.permitEach principal action names) := by
  unfold authorizeNames
  simp only [List.isEmpty_iff, hnames, if_false]
  rcases h with h | h
  · rw [h]
    rcases principal.grant with _ | grant <;> rfl
  · rw [h]

/-- A batch that names nothing is answered with nothing. -/
theorem authorizeNames_nil :
    service.authorizeNames clock tracker principal [] action =
      untouched tracker (⟨[], [], false⟩, []) := rfl

/-! ### Without a judgement there is no emergency access -/

/-- A refusal gives no access. -/
theorem eq_deny_of_admission_eq_error {denial : Decision}
    (h : admission principal name = .error denial) :
    ∃ caller code reason, denial = .deny caller code reason := by
  unfold admission at h
  split at h
  · rcases hcheck : ResourceName.check name with fault | s
    · rw [hcheck] at h
      cases h
      exact ⟨_, _, _, rfl⟩
    · rw [hcheck] at h
      cases h
  · cases h
    exact ⟨_, _, _, rfl⟩

/-- A refusal of a category gives no access. -/
theorem eq_deny_of_categoryAdmission_eq_error {denial : Decision}
    (h : service.categoryAdmission principal name = .error denial) :
    ∃ caller code reason, denial = .deny caller code reason := by
  unfold categoryAdmission at h
  split at h
  · split at h
    · cases h
    · cases h
      exact ⟨_, _, _, rfl⟩
  · exact eq_deny_of_admission_eq_error h

/-- A refusal is for want of authentication, and otherwise for the name. -/
theorem code?_of_admission_eq_error {denial : Decision}
    (h : admission principal name = .error denial) :
    denial.code? =
      some (if principal.authenticated then .invalidResourceName else .notAuthenticated) := by
  unfold admission at h
  by_cases hauthenticated : principal.authenticated = true
  · rw [if_pos hauthenticated] at h ⊢
    rcases hcheck : ResourceName.check name with fault | s
    · rw [hcheck] at h
      cases h
      rfl
    · rw [hcheck] at h
      cases h
  · rw [if_neg hauthenticated] at h ⊢
    cases h
    rfl

/-- A name that is refused in a batch stands there with the denial of its admission. -/
theorem admission_of_mem_refused {entry : Value × Decision} (h : entry ∈ refused principal names) :
    entry.1 ∈ names ∧ admission principal entry.1 = .error entry.2 := by
  obtain ⟨name, hname, hentry⟩ := List.mem_filterMap.mp h
  rcases hadmission : admission principal name with denial | resource
  · rw [hadmission] at hentry
    cases hentry
    exact ⟨hname, hadmission⟩
  · rw [hadmission] at hentry
    cases hentry

/-- A refusal of a category is for want of authentication, and otherwise for the name. -/
theorem code?_of_categoryAdmission_eq_error {denial : Decision}
    (h : service.categoryAdmission principal name = .error denial) :
    denial.code? =
      some (if principal.authenticated then .invalidResourceName else .notAuthenticated) := by
  unfold categoryAdmission at h
  split at h
  · by_cases hauthenticated : principal.authenticated = true
    · rw [if_pos hauthenticated] at h
      cases h
    · rw [if_neg hauthenticated] at h ⊢
      cases h
      rfl
  · exact code?_of_admission_eq_error h

/-- Permissions give no emergency access to a secret. -/
theorem isEmergency_permit (service : Service) (principal : Principal) (action : Action)
    (resource : String) : (service.permit principal action resource).1.isEmergency = false := by
  unfold permit
  dsimp only
  split <;> rfl

/-- Permissions give no emergency access to a category. -/
theorem isEmergency_permitCategory (service : Service) (principal : Principal) (action : Action)
    (resource : String) :
    (service.permitCategory principal action resource).1.isEmergency = false := by
  unfold permitCategory
  dsimp only
  split <;> rfl

/-- A list of texts can be read as names. -/
theorem namesOf_texts (texts : List String) :
    namesOf (.list (texts.map .text)) = .ok (Value.distinctKeys (texts.map .text)) := by
  have hkeys : (texts.map Value.text).mapM Value.asKey = Except.ok (texts.map Value.text) := by
    induction texts with
    | nil => rfl
    | cons first rest ih =>
      rw [List.map_cons, List.mapM_cons, ih]
      rfl
  show ((texts.map Value.text).mapM Value.asKey).map Value.distinctKeys = _
  rw [hkeys]
  rfl

end gates

end Service

/-! ## Calls and answers -/

/-- What a call is about. -/
inductive Target
  /-- One secret. -/
  | secret (name : Value)
  /-- One category. -/
  | category (name : Value)
  /-- Several secrets, as one value that lists them. -/
  | several (names : Value)

/-- One request to a service. -/
structure Call where
  /-- The service that is asked. -/
  service : Service
  /-- What its clock reads. -/
  clock : Number
  /-- Who asks. -/
  principal : Principal
  /-- What is asked about. -/
  target : Target
  /-- What is to be done with it. -/
  action : Action

/-- What a call is answered. -/
inductive Answer
  /-- The answer about one secret or category. -/
  | decision (d : Decision)
  /-- The answer about several secrets. -/
  | batch (b : BatchDecision)

/-- Whether an answer gives access by an emergency grant. -/
def Answer.isEmergency : Answer → Bool
  | .decision d => d.isAuthorized && d.isEmergency
  | .batch b => b.isEmergency

/-- Whether an answer passes a decision on: it is the decision, or a batch in which every admitted
name gets it. -/
def Answer.Conveys (answer : Answer) (decision : Decision) : Prop :=
  answer = .decision decision ∨
    ∃ accepted refusals, accepted ≠ [] ∧
      answer = .batch (Service.batchOf accepted refusals decision)

/-- Whether a step is an answer that gives access by an emergency grant. -/
def Step.givesEmergency (step : Step Answer) : Bool :=
  match step.result with
  | .ok answer => answer.isEmergency
  | .error _ => false

namespace Call

/-- What a call comes to. -/
def step (call : Call) (tracker : Tracker) : Step Answer :=
  match call.target with
  | .secret name =>
    (call.service.authorize call.clock tracker call.principal name call.action).map .decision
  | .category name =>
    (call.service.authorizeCategory call.clock tracker call.principal name call.action).map
      .decision
  | .several names =>
    (call.service.authorizeMany call.clock tracker call.principal names call.action).map .batch

/-- The names of secrets and categories that a call may be about once it is admitted. -/
def admittedNames (call : Call) : List String :=
  match call.target with
  | .secret name => (Service.admission call.principal name).toOption.toList
  | .category name => (call.service.categoryAdmission call.principal name).toOption.toList
  | .several names =>
    ((Service.namesOf names).toOption.map (Service.admitted call.principal)).getD []

/-- The grant that a call is judged by: that of the caller, if some name is admitted. -/
def judged? (call : Call) : Option Grant :=
  if call.admittedNames = [] then none else call.principal.grant

/-- The bare nonce of the grant that the caller presents, if it is a text. -/
def nonce? (call : Call) : Option String :=
  call.principal.grant.bind fun grant => grant.bareNonce.text.toOption

/-- Whether what a call is about is given in a form that can be read: any value for one secret or
category, a list of texts for several secrets. -/
def IsReadable (call : Call) : Prop :=
  match call.target with
  | .secret _ | .category _ => True
  | .several names => ∃ texts : List String, names = .list (texts.map .text)

/-- What a call about several secrets comes to once the names are read. -/
theorem step_several_of_read {call : Call} {names : Value} {distinct : List Value}
    (htarget : call.target = .several names) (hread : Service.namesOf names = .ok distinct)
    {tracker : Tracker} :
    call.step tracker =
      (call.service.authorizeNames call.clock tracker call.principal distinct call.action).map
        .batch := by
  unfold step
  rw [htarget]
  show (call.service.authorizeMany call.clock tracker call.principal names call.action).map _ = _
  unfold Service.authorizeMany
  rw [hread]

/-- A call about several secrets whose names cannot be told apart ends in the fault of reading
them. -/
theorem step_several_of_unread {call : Call} {names : Value} {fault : Fault}
    (htarget : call.target = .several names) (hread : Service.namesOf names = .error fault)
    {tracker : Tracker} : call.step tracker = ⟨.error fault, tracker, []⟩ := by
  unfold step
  rw [htarget]
  show (call.service.authorizeMany call.clock tracker call.principal names call.action).map _ = _
  unfold Service.authorizeMany
  rw [hread]
  rfl

/-! ## A call that is judged by a grant -/

/-- A call is judged by the grant of its caller or by none. -/
theorem judged?_eq_some_iff {call : Call} {grant : Grant} :
    call.judged? = some grant ↔ call.admittedNames ≠ [] ∧ call.principal.grant = some grant := by
  unfold judged?
  by_cases h : call.admittedNames = []
  · rw [if_pos h]
    constructor
    · intro hnone
      cases hnone
    · rintro ⟨hne, -⟩
      exact absurd h hne
  · rw [if_neg h]
    constructor
    · intro hgrant
      exact ⟨h, hgrant⟩
    · intro hboth
      exact hboth.2

/-- **A judged call is its judgement.** The journal names some resource, and the decision is turned
into the answer by a function that passes it on and keeps whether there is emergency access. -/
theorem step_of_judged {call : Call} {grant : Grant} (h : call.judged? = some grant) :
    ∃ (resource : Value) (answer : Decision → Answer),
      (∀ tracker, call.step tracker =
        (Emergency.judge call.service.longestGrant call.clock tracker grant resource
          call.principal.caller).map answer) ∧
      (answer (.grantEmergency call.principal.caller)).isEmergency = true ∧
      (∀ rejection,
        (answer (Emergency.denial call.principal.caller rejection)).isEmergency = false) ∧
      ∀ decision, (answer decision).Conveys decision := by
  obtain ⟨hnames, hgrant⟩ := judged?_eq_some_iff.mp h
  obtain ⟨service, clock, principal, target, action⟩ := call
  cases target with
  | secret name =>
    rcases hadmit : Service.admission principal name with denial | secret
    · exact absurd (by simp [admittedNames, hadmit, Except.toOption]) hnames
    · refine ⟨.text secret, .decision, ?_, rfl, fun _ => rfl, fun _ => Or.inl rfl⟩
      intro tracker
      exact congrArg (Step.map _) (Service.authorize_of_grant hadmit hgrant)
  | category name =>
    rcases hadmit : service.categoryAdmission principal name with denial | category
    · exact absurd (by simp [admittedNames, hadmit, Except.toOption]) hnames
    · refine ⟨.text ("category:" ++ category), .decision, ?_, rfl, fun _ => rfl,
        fun _ => Or.inl rfl⟩
      intro tracker
      exact congrArg (Step.map _) (Service.authorizeCategory_of_grant hadmit hgrant)
  | several names =>
    rcases hread : Service.namesOf names with fault | distinct
    · exact absurd (by simp [admittedNames, hread, Except.toOption]) hnames
    · have hsome : Service.admitted principal distinct ≠ [] := by
        simpa [admittedNames, hread, Except.toOption] using hnames
      refine ⟨.text ("batch:" ++ Text.join "," (Service.admitted principal distinct)),
        fun d => .batch (Service.batchOf (Service.admitted principal distinct)
          (Service.refused principal distinct) d), ?_, rfl, fun _ => rfl,
        fun _ => Or.inr ⟨_, _, hsome, rfl⟩⟩
      intro tracker
      rw [step_several_of_read rfl hread, Service.authorizeNames_of_grant hsome hgrant,
        Step.map_map]
      rfl

/-! ## A call that no grant judges -/

/-- Whether a call is a plain function: it has one answer whatever the tracker, which it leaves
alone; the answer is no emergency access, and there is one if what the call is about can be read. -/
def IsPlain (call : Call) : Prop :=
  ∃ (result : Except Fault Answer) (journal : List Journal.Entry),
    (∀ tracker, call.step tracker = ⟨result, tracker, journal⟩) ∧
    (∀ answer, result = .ok answer → answer.isEmergency = false) ∧
    (call.IsReadable → ∃ answer, result = .ok answer)

/-- A call that leaves the tracker alone and gives no emergency access is a plain function. -/
theorem isPlain_of_untouched {α : Type} {call : Call} {decided : α × List Journal.Entry}
    (answer : α → Answer)
    (hstep : ∀ tracker, call.step tracker = (Service.untouched tracker decided).map answer)
    (hno : (answer decided.1).isEmergency = false) : call.IsPlain := by
  refine ⟨.ok (answer decided.1), decided.2, hstep, ?_, fun _ => ⟨_, rfl⟩⟩
  intro given hgiven
  cases hgiven
  exact hno

/-- A call whose names cannot be told apart is a plain fault. -/
theorem isPlain_of_unread {call : Call} {names : Value} {fault : Fault}
    (htarget : call.target = .several names) (hread : Service.namesOf names = .error fault) :
    call.IsPlain := by
  refine ⟨.error fault, [], fun tracker => step_several_of_unread htarget hread, ?_, ?_⟩
  · intro given hgiven
    cases hgiven
  · intro hreadable
    unfold IsReadable at hreadable
    rw [htarget] at hreadable
    obtain ⟨texts, rfl⟩ := hreadable
    rw [Service.namesOf_texts] at hread
    cases hread

/-- **An unjudged call is a plain function.** Refused, or decided by permissions, or with nothing to
decide: on none of these ways is the tracker reached. -/
theorem isPlain_of_unjudged {call : Call} (h : call.judged? = none) : call.IsPlain := by
  have hgate : call.admittedNames ≠ [] → call.principal.grant = none := by
    intro hne
    unfold judged? at h
    rwa [if_neg hne] at h
  obtain ⟨service, clock, principal, target, action⟩ := call
  cases target with
  | secret name =>
    rcases hadmit : Service.admission principal name with denial | secret
    · obtain ⟨caller, code, reason, rfl⟩ := Service.eq_deny_of_admission_eq_error hadmit
      exact isPlain_of_untouched .decision
        (fun tracker => congrArg (Step.map _) (Service.authorize_of_refused hadmit)) rfl
    · have hnone := hgate (by simp [admittedNames, hadmit, Except.toOption])
      exact isPlain_of_untouched .decision
        (fun tracker => congrArg (Step.map _) (Service.authorize_of_no_grant hadmit hnone))
        (by simp [Answer.isEmergency, Service.isEmergency_permit])
  | category name =>
    rcases hadmit : service.categoryAdmission principal name with denial | category
    · obtain ⟨caller, code, reason, rfl⟩ := Service.eq_deny_of_categoryAdmission_eq_error hadmit
      exact isPlain_of_untouched .decision
        (fun tracker => congrArg (Step.map _) (Service.authorizeCategory_of_refused hadmit)) rfl
    · have hnone := hgate (by simp [admittedNames, hadmit, Except.toOption])
      exact isPlain_of_untouched .decision
        (fun tracker => congrArg (Step.map _) (Service.authorizeCategory_of_no_grant hadmit hnone))
        (by simp [Answer.isEmergency, Service.isEmergency_permitCategory])
  | several names =>
    rcases hread : Service.namesOf names with fault | distinct
    · exact isPlain_of_unread rfl hread
    · by_cases hempty : distinct = []
      · subst hempty
        exact isPlain_of_untouched .batch
          (fun tracker => (step_several_of_read rfl hread).trans
            (congrArg (Step.map _) Service.authorizeNames_nil)) rfl
      · have hno : Service.admitted principal distinct = [] ∨ principal.grant = none := by
          by_cases hadmitted : Service.admitted principal distinct = []
          · exact Or.inl hadmitted
          · exact Or.inr (hgate (by simpa [admittedNames, hread, Except.toOption] using hadmitted))
        exact isPlain_of_untouched .batch
          (fun tracker => (step_several_of_read rfl hread).trans
            (congrArg (Step.map _) (Service.authorizeNames_of_no_judgement hempty hno))) rfl

end Call

end SecretAccess
