import SecretAccess.Proofs.Service.OrdinaryAccess

/-!
# A grant decides alone

A principal that presents a grant is decided by the grant, and by nothing else.

* **Two runs** (`decided_by_grant_alone`, first part): two calls with one grant, of one caller, at
  one clock reading, to services that allow the same lifetime, are answered alike and leave the
  tracker alike. Permissions, allow-lists, actions, and what is asked about, be it a secret or a
  category, do not matter. The journal does name the resource, so it is not part of the comparison.
* **One run** (second part): whatever such a call asks about, its answer ignores permissions: all
  access in it is emergency access, and nothing in it is denied for lack of a permission.

Both rest on `Emergency.judge_of_other_resource`: a judgement shows the resource in its journal
only. The tracker is any tracker, in memory or shared, and faults count as outcomes.
-/

namespace SecretAccess

/-! ## The resource of a judgement -/

namespace Emergency

section resource

variable (longest clock : Number) (tracker : Tracker) (grant : Grant) (resource other : Value)
  (caller : Caller)

/-- For which resource a nonce is redeemed is seen in the journal only. -/
theorem redeem_of_other_resource (vetted : Vetted) :
    (redeem clock tracker grant vetted resource caller).result =
        (redeem clock tracker grant vetted other caller).result ∧
      (redeem clock tracker grant vetted resource caller).tracker =
        (redeem clock tracker grant vetted other caller).tracker := by
  refine ⟨?_, by rw [tracker_redeem, tracker_redeem]⟩
  unfold redeem
  dsimp only
  split <;> rfl

/-- **For which resource a grant is judged is seen in the journal only.** -/
theorem judge_of_other_resource :
    (judge longest clock tracker grant resource caller).result =
        (judge longest clock tracker grant other caller).result ∧
      (judge longest clock tracker grant resource caller).tracker =
        (judge longest clock tracker grant other caller).tracker := by
  rcases hvet : vet longest clock grant with fault | rejection | vetted
  · rw [judge_of_fault hvet, judge_of_fault hvet]
    exact ⟨rfl, rfl⟩
  · rw [judge_of_rejected hvet, judge_of_rejected hvet]
    exact ⟨rfl, rfl⟩
  · rw [judge_of_vetted hvet, judge_of_vetted hvet]
    exact redeem_of_other_resource clock tracker grant resource other caller vetted

/-- A judgement that is answered gives emergency access or denies by the rule that the grant
breaks. -/
theorem eq_of_judge_eq_ok {decision : Decision}
    (h : (judge longest clock tracker grant resource caller).result = .ok decision) :
    decision = .grantEmergency caller ∨ ∃ rejection, decision = denial caller rejection := by
  rcases hvet : vet longest clock grant with fault | rejection | vetted
  · rw [judge_of_fault hvet] at h
    cases h
  · rw [judge_of_rejected hvet] at h
    cases h
    exact Or.inr ⟨rejection, rfl⟩
  · rw [judge_of_vetted hvet] at h
    unfold redeem at h
    dsimp only at h
    split at h
    · cases h
      exact Or.inl rfl
    · cases h
      exact Or.inr ⟨_, rfl⟩
    · cases h
      exact Or.inr ⟨_, rfl⟩
    · cases h

end resource

/-- No rule that a grant may break is about permissions. -/
theorem Rejection.code_ne_noMatchingPermission (rejection : Rejection) :
    rejection.code ≠ .noMatchingPermission := by
  cases rejection <;> exact DenialCode.noConfusion

end Emergency

/-! ## Two runs -/

namespace Call

/-- Whether a call is an authenticated request about one secret or one category, by a name that
passes with its service. -/
def NamesOne (call : Call) : Prop :=
  call.principal.authenticated = true ∧
    match call.target with
    | .secret name => ∃ secret, ResourceName.check name = .ok secret
    | .category name => ∃ category, name = .text category ∧ call.service.Admits category
    | .several _ => False

/-- Whether two calls agree in everything that a judgement may depend on, beside the tracker. -/
structure SameEmergency (call other : Call) : Prop where
  /-- The callers show one identity and one type. -/
  caller : call.principal.caller = other.principal.caller
  /-- They present one grant. -/
  grant : call.principal.grant = other.principal.grant
  /-- The services allow grants the same longest lifetime. -/
  longest : call.service.longestGrant = other.service.longestGrant
  /-- The clocks read the same. -/
  clock : call.clock = other.clock

/-- An authenticated request about one secret or category by a principal with a grant is a judgement
of the grant, for some resource. -/
theorem step_of_namesOne {call : Call} {grant : Grant} (hgrant : call.principal.grant = some grant)
    (hone : call.NamesOne) :
    ∃ resource, ∀ tracker, call.step tracker =
      (Emergency.judge call.service.longestGrant call.clock tracker grant resource
        call.principal.caller).map .decision := by
  obtain ⟨service, clock, principal, target, action⟩ := call
  obtain ⟨hauthenticated, hnames⟩ := hone
  cases target with
  | secret name =>
    obtain ⟨secret, hcheck⟩ := hnames
    have hadmitted := Service.admission_of_check hauthenticated hcheck
    refine ⟨.text secret, ?_⟩
    intro tracker
    exact congrArg (Step.map _) (Service.authorize_of_grant hadmitted hgrant)
  | category name =>
    obtain ⟨category, rfl, hadmits⟩ := hnames
    have hadmitted := Service.categoryAdmission_of_admits hauthenticated hadmits
    refine ⟨.text ("category:" ++ category), ?_⟩
    intro tracker
    exact congrArg (Step.map _) (Service.authorizeCategory_of_grant hadmitted hgrant)
  | several names => exact hnames.elim

/-- What such a request comes to does not depend on the resource at all. -/
theorem outcome_of_namesOne {call : Call} {grant : Grant}
    (hgrant : call.principal.grant = some grant) (hone : call.NamesOne) (tracker : Tracker) :
    (call.step tracker).result =
        (Emergency.judge call.service.longestGrant call.clock tracker grant .null
          call.principal.caller).result.map .decision ∧
      (call.step tracker).tracker =
        (Emergency.judge call.service.longestGrant call.clock tracker grant .null
          call.principal.caller).tracker := by
  obtain ⟨resource, hstep⟩ := step_of_namesOne hgrant hone
  obtain ⟨hresult, htracker⟩ := Emergency.judge_of_other_resource call.service.longestGrant
    call.clock tracker grant resource .null call.principal.caller
  rw [hstep]
  exact ⟨congrArg (Except.map _) hresult, htracker⟩

end Call

/-! ## Permissions play no part -/

/-- Whether permissions play no part in a decision: access is emergency access, and a denial is not
for lack of a permission. -/
def Decision.IgnoresPermissions (decision : Decision) : Prop :=
  (decision.isAuthorized = true → decision.isEmergency = true) ∧
    decision.code? ≠ some .noMatchingPermission

/-- Whether permissions play no part in an answer: not in its decision, and in a batch neither in
what is granted nor in any denial. -/
def Answer.IgnoresPermissions : Answer → Prop
  | .decision d => d.IgnoresPermissions
  | .batch b =>
    (b.granted ≠ [] → b.isEmergency = true) ∧ ∀ entry ∈ b.denied, entry.2.IgnoresPermissions

namespace Decision

/-- Emergency access ignores permissions. -/
theorem ignoresPermissions_grantEmergency (caller : Caller) :
    (grantEmergency caller).IgnoresPermissions := by
  refine ⟨fun _ => rfl, ?_⟩
  intro h
  cases h

/-- A denial ignores permissions unless it is for lack of one. -/
theorem ignoresPermissions_deny (caller : Caller) {code : DenialCode} (reason : String)
    (h : code ≠ .noMatchingPermission) : (deny caller code reason).IgnoresPermissions := by
  refine ⟨?_, ?_⟩
  · intro hauthorized
    cases hauthorized
  · intro hcode
    exact h (Option.some.inj hcode)

/-- The refusal of a name ignores permissions. -/
theorem ignoresPermissions_of_refusal {principal : Principal} {denial : Decision}
    (hdenial : ∃ caller code reason, denial = .deny caller code reason)
    (hcode : denial.code? =
      some (if principal.authenticated then .invalidResourceName else .notAuthenticated)) :
    denial.IgnoresPermissions := by
  obtain ⟨caller, code, reason, rfl⟩ := hdenial
  apply ignoresPermissions_deny
  have hsame : code = if principal.authenticated then .invalidResourceName else .notAuthenticated :=
    Option.some.inj hcode
  rw [hsame]
  split <;> exact DenialCode.noConfusion

/-- What a judgement decides ignores permissions. -/
theorem ignoresPermissions_of_judge {longest clock : Number} {tracker : Tracker} {grant : Grant}
    {resource : Value} {caller : Caller} {decision : Decision}
    (h : (Emergency.judge longest clock tracker grant resource caller).result = .ok decision) :
    decision.IgnoresPermissions := by
  rcases Emergency.eq_of_judge_eq_ok _ _ _ _ _ _ h with rfl | ⟨rejection, rfl⟩
  · exact ignoresPermissions_grantEmergency caller
  · exact ignoresPermissions_deny caller _ rejection.code_ne_noMatchingPermission

end Decision

namespace Service

variable {service : Service} {principal : Principal} {names : List Value} {action : Action}

/-- The names that are refused in a batch are denied for other reasons than permissions. -/
theorem ignoresPermissions_of_mem_refused {entry : Value × Decision}
    (h : entry ∈ refused principal names) : entry.2.IgnoresPermissions := by
  obtain ⟨-, hadmission⟩ := admission_of_mem_refused h
  exact Decision.ignoresPermissions_of_refusal (eq_deny_of_admission_eq_error hadmission)
    (code?_of_admission_eq_error hadmission)

/-- A batch in which no name is admitted is answered with its refusals, whatever the tracker. -/
theorem authorizeNames_of_admitted_eq_nil (clock : Number) (tracker : Tracker)
    (h : admitted principal names = []) :
    ∃ journal, service.authorizeNames clock tracker principal names action =
      ⟨.ok ⟨[], refused principal names, false⟩, tracker, journal⟩ := by
  by_cases hnames : names = []
  · subst hnames
    exact ⟨[], rfl⟩
  · have hbatch : (service.permitEach principal action names).1 =
        ⟨[], refused principal names, false⟩ := by
      unfold permitEach
      simp [h]
    refine ⟨(service.permitEach principal action names).2, ?_⟩
    rw [authorizeNames_of_no_judgement hnames (Or.inl h)]
    unfold untouched
    rw [hbatch]

/-- A batch that is judged by a grant ignores permissions. -/
theorem ignoresPermissions_batchOf {accepted : List String} {refusals : List (Value × Decision)}
    {decision : Decision} (hrefusals : ∀ entry ∈ refusals, entry.2.IgnoresPermissions)
    (hdecision : decision.IgnoresPermissions) :
    (Answer.batch (batchOf accepted refusals decision)).IgnoresPermissions := by
  unfold batchOf
  by_cases hauthorized : decision.isAuthorized = true
  · rw [if_pos hauthorized]
    exact ⟨fun _ => rfl, hrefusals⟩
  · rw [if_neg hauthorized]
    refine ⟨fun hgranted => absurd rfl hgranted, ?_⟩
    intro entry hentry
    rcases List.mem_append.mp hentry with hentry | hentry
    · exact hrefusals entry hentry
    · obtain ⟨name, -, rfl⟩ := List.mem_map.mp hentry
      exact hdecision

end Service

namespace Call

variable {call : Call} {grant : Grant} {tracker : Tracker} {answer : Answer}

/-- The answer about one secret to a principal with a grant ignores permissions. -/
theorem ignoresPermissions_of_secret {name : Value} (htarget : call.target = .secret name)
    (hgrant : call.principal.grant = some grant) (h : (call.step tracker).result = .ok answer) :
    answer.IgnoresPermissions := by
  unfold step at h
  rw [htarget] at h
  obtain ⟨decision, hdecision, rfl⟩ := Step.result_map_eq_ok_iff.mp h
  rcases hadmission : Service.admission call.principal name with denial | secret
  · rw [Service.authorize_of_refused hadmission] at hdecision
    cases hdecision
    exact Decision.ignoresPermissions_of_refusal
      (Service.eq_deny_of_admission_eq_error hadmission)
      (Service.code?_of_admission_eq_error hadmission)
  · rw [Service.authorize_of_grant hadmission hgrant] at hdecision
    exact Decision.ignoresPermissions_of_judge hdecision

/-- So does the answer about one category. -/
theorem ignoresPermissions_of_category {name : Value} (htarget : call.target = .category name)
    (hgrant : call.principal.grant = some grant) (h : (call.step tracker).result = .ok answer) :
    answer.IgnoresPermissions := by
  unfold step at h
  rw [htarget] at h
  obtain ⟨decision, hdecision, rfl⟩ := Step.result_map_eq_ok_iff.mp h
  rcases hadmission : call.service.categoryAdmission call.principal name with denial | category
  · rw [Service.authorizeCategory_of_refused hadmission] at hdecision
    cases hdecision
    exact Decision.ignoresPermissions_of_refusal
      (Service.eq_deny_of_categoryAdmission_eq_error hadmission)
      (Service.code?_of_categoryAdmission_eq_error hadmission)
  · rw [Service.authorizeCategory_of_grant hadmission hgrant] at hdecision
    exact Decision.ignoresPermissions_of_judge hdecision

/-- So does the answer about several secrets: the names that are refused are not up to the grant,
and if no name is left, nothing is granted. -/
theorem ignoresPermissions_of_several {names : Value} (htarget : call.target = .several names)
    (hgrant : call.principal.grant = some grant) (h : (call.step tracker).result = .ok answer) :
    answer.IgnoresPermissions := by
  rcases hread : Service.namesOf names with fault | distinct
  · rw [step_several_of_unread htarget hread] at h
    cases h
  rw [step_several_of_read htarget hread] at h
  obtain ⟨batch, hbatch, rfl⟩ := Step.result_map_eq_ok_iff.mp h
  by_cases hadmitted : Service.admitted call.principal distinct = []
  · obtain ⟨journal, hstep⟩ :=
      Service.authorizeNames_of_admitted_eq_nil call.clock tracker hadmitted
    rw [hstep] at hbatch
    cases hbatch
    exact ⟨fun hgranted => absurd rfl hgranted,
      fun entry => Service.ignoresPermissions_of_mem_refused⟩
  · rw [Service.authorizeNames_of_grant hadmitted hgrant] at hbatch
    obtain ⟨decision, hdecision, rfl⟩ := Step.result_map_eq_ok_iff.mp hbatch
    exact Service.ignoresPermissions_batchOf
      (fun entry => Service.ignoresPermissions_of_mem_refused)
      (Decision.ignoresPermissions_of_judge hdecision)

/-- **A grant decides alone.** Let the caller of a call present a grant.

1. If the call is an authenticated request about one secret or category by a name that passes, then
   any other such call that presents the same grant under the same identity, at the same clock
   reading and to a service that allows the same longest lifetime, is answered the same and leaves
   the same tracker, whatever its permissions, allow-list, action and resource.
2. Whatever the call is about, permissions play no part in its answer. -/
theorem decided_by_grant_alone {call : Call} {grant : Grant}
    (hgrant : call.principal.grant = some grant) (tracker : Tracker) :
    (call.NamesOne → ∀ other : Call, other.NamesOne → call.SameEmergency other →
        (call.step tracker).result = (other.step tracker).result ∧
          (call.step tracker).tracker = (other.step tracker).tracker) ∧
      ∀ answer, (call.step tracker).result = .ok answer → answer.IgnoresPermissions := by
  constructor
  · intro hone other hother hsame
    have hotherGrant : other.principal.grant = some grant := by rw [← hsame.grant, hgrant]
    obtain ⟨hresult, htracker⟩ := outcome_of_namesOne hgrant hone tracker
    obtain ⟨hotherResult, hotherTracker⟩ := outcome_of_namesOne hotherGrant hother tracker
    rw [hresult, htracker, hotherResult, hotherTracker, hsame.caller, hsame.longest, hsame.clock]
    exact ⟨rfl, rfl⟩
  · intro answer hanswer
    rcases htarget : call.target with name | name | names
    · exact ignoresPermissions_of_secret htarget hgrant hanswer
    · exact ignoresPermissions_of_category htarget hgrant hanswer
    · exact ignoresPermissions_of_several htarget hgrant hanswer

end Call

/-! ### A secret and a category -/

/-- A caller with a grant that expires at 1800000060, and with some permissions. -/
def Principal.urgent (permissions : List Value) : Principal :=
  ⟨⟨some "u", "user"⟩, permissions, some ⟨none, .text "1800000060", some "n"⟩, true⟩

namespace Call

/-- The request of that caller for a listed secret, with a permission for everything. -/
def urgentRead : Call :=
  ⟨⟨⟨[("oauth", ["discord-bot-token"])]⟩, .int 3600⟩, .int 1800000000,
    Principal.urgent [.text "secrets:*"], .secret (.text "discord-bot-token"), .read⟩

/-- The request of that caller for a whole category of a service that lists nothing, without any
permission. -/
def urgentDelete : Call :=
  ⟨⟨⟨[]⟩, .int 3600⟩, .int 1800000000, Principal.urgent [], .category (.text "OAuth"), .delete⟩

/-- The two requests are decided alike. -/
theorem secret_and_category_decided_alike :
    urgentRead.NamesOne ∧ urgentDelete.NamesOne ∧ urgentRead.SameEmergency urgentDelete ∧
      (urgentRead.step .empty).result = (urgentDelete.step .empty).result ∧
      (urgentRead.step .empty).tracker = (urgentDelete.step .empty).tracker := by
  have hread : urgentRead.NamesOne := ⟨rfl, "discord-bot-token", rfl⟩
  have hdelete : urgentDelete.NamesOne := by
    refine ⟨rfl, "OAuth", rfl, Or.inl ?_⟩
    decide +kernel
  have hsame : urgentRead.SameEmergency urgentDelete := ⟨rfl, rfl, rfl, rfl⟩
  have hgrant : urgentRead.principal.grant = some ⟨none, .text "1800000060", some "n"⟩ := rfl
  obtain ⟨hresult, htracker⟩ :=
    (decided_by_grant_alone hgrant .empty).1 hread urgentDelete hdelete hsame
  exact ⟨hread, hdelete, hsame, hresult, htracker⟩

end Call

end SecretAccess
