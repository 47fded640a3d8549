import SecretAccess.Proofs.Service.GrantAlone

/-!
# The ways a decision comes about

A decision about a secret or a category, alone or as a denial within a batch, comes about in one of
six ways. Two refuse the request before anything is decided (`Decision.Refusal`), and four decide
it, two by permissions and two by a grant (`Decision.Ruling`).

* **`Service.exit_of_authorize`**, **`Service.exit_of_authorizeCategory`** and
  **`Service.exit_of_mem_denied`**: there is no other way, whatever the tracker does.
* **`decisions_fit_their_principal`**: read off the six ways, every decision fits its principal
  (`Decision.Fits`). Access and a denial exclude each other, the status tells whether the principal
  is authenticated, the code tells whether it presents a grant, and the caller is the one who asked.
-/

namespace SecretAccess

/-! ## Six ways -/

namespace Decision

/-- The ways in which a request of a principal is refused. -/
inductive Refusal (principal : Principal) : Decision → Prop
  /-- The principal is not authenticated. -/
  | unauthenticated (h : principal.authenticated = false) :
      Refusal principal Service.unauthenticated
  /-- What it names is no name. -/
  | name (h : principal.authenticated = true) (fault : NameFault) :
      Refusal principal (.deny principal.caller .invalidResourceName fault.message)

/-- The ways in which an admitted request of a principal is decided. -/
inductive Ruling (principal : Principal) : Decision → Prop
  /-- Permissions give access. -/
  | permitted (h : principal.grant = none) : Ruling principal (.grant principal.caller)
  /-- They do not. -/
  | lacking (h : principal.grant = none) (action : Action) (resource : String) :
      Ruling principal (Service.missingPermission principal.caller action resource)
  /-- A grant gives access. -/
  | emergency {grant : Grant} (h : principal.grant = some grant) :
      Ruling principal (.grantEmergency principal.caller)
  /-- It does not. -/
  | rejected {grant : Grant} (h : principal.grant = some grant) (rejection : Emergency.Rejection) :
      Ruling principal (Emergency.denial principal.caller rejection)

/-- The ways in which a decision for a principal comes about. -/
inductive Exit (principal : Principal) (decision : Decision) : Prop
  /-- The request is refused. -/
  | refused (h : Refusal principal decision)
  /-- It is admitted and decided. -/
  | ruled (hauthenticated : principal.authenticated = true) (h : Ruling principal decision)

end Decision

namespace Service

open Decision

section exits

variable {service : Service} {clock : Number} {tracker : Tracker} {principal : Principal}
  {name : Value} {names : List Value} {action : Action} {decision : Decision} {resource : String}

/-! ### Admission -/

/-- Only an authenticated principal is admitted, and only by a name that passes. -/
theorem check_of_admission_eq_ok (h : admission principal name = .ok resource) :
    principal.authenticated = true ∧ ResourceName.check name = .ok resource := by
  unfold admission at h
  split at h
  · rename_i hauthenticated
    rcases hcheck : ResourceName.check name with fault | s
    · rw [hcheck] at h
      cases h
    · rw [hcheck] at h
      cases h
      exact ⟨hauthenticated, rfl⟩
  · cases h

/-- Who is not admitted is refused. -/
theorem refusal_of_admission_eq_error (h : admission principal name = .error decision) :
    Refusal principal decision := by
  unfold admission at h
  split at h
  · rename_i hauthenticated
    rcases hcheck : ResourceName.check name with fault | s
    · rw [hcheck] at h
      cases h
      exact .name hauthenticated fault
    · rw [hcheck] at h
      cases h
  · rename_i hunknown
    cases h
    exact .unauthenticated (Bool.eq_false_iff.mpr hunknown)

/-- A request for a category is admitted only to an authenticated principal, and only about a
category whose name passes. -/
theorem admits_of_categoryAdmission_eq_ok
    (h : service.categoryAdmission principal name = .ok resource) :
    principal.authenticated = true ∧ name = .text resource ∧ service.Admits resource := by
  unfold categoryAdmission at h
  split at h
  · rename_i known hknown
    split at h
    · rename_i hauthenticated
      cases h
      obtain ⟨hread, hmem⟩ := Option.filter_eq_some_iff.mp hknown
      refine ⟨hauthenticated, ?_, Or.inl (List.contains_iff_mem.mp hmem)⟩
      cases name <;> cases hread
      rfl
    · cases h
  · obtain ⟨hauthenticated, hcheck⟩ := check_of_admission_eq_ok h
    obtain ⟨rfl, -⟩ := ResourceName.check_eq_ok_iff.mp hcheck
    exact ⟨hauthenticated, rfl, Or.inr hcheck⟩

/-- Who is not admitted to a category is refused. -/
theorem refusal_of_categoryAdmission_eq_error
    (h : service.categoryAdmission principal name = .error decision) :
    Refusal principal decision := by
  unfold categoryAdmission at h
  split at h
  · split at h
    · cases h
    · rename_i hunknown
      cases h
      exact .unauthenticated (Bool.eq_false_iff.mpr hunknown)
  · exact refusal_of_admission_eq_error h

/-! ### Ruling -/

/-- What permissions decide about a secret. -/
theorem ruling_permit (hgrant : principal.grant = none) (service : Service) (action : Action)
    (resource : String) : Ruling principal (service.permit principal action resource).1 := by
  unfold permit
  dsimp only
  split
  · exact .permitted hgrant
  · exact .lacking hgrant action _

/-- What permissions decide about a category. -/
theorem ruling_permitCategory (hgrant : principal.grant = none) (service : Service)
    (action : Action) (resource : String) :
    Ruling principal (service.permitCategory principal action resource).1 := by
  unfold permitCategory
  dsimp only
  split
  · exact .permitted hgrant
  · exact .lacking hgrant action _

/-- What a grant decides. -/
theorem ruling_of_judge {grant : Grant} (hgrant : principal.grant = some grant) {longest : Number}
    {shown : Value}
    (h : (Emergency.judge longest clock tracker grant shown principal.caller).result =
      .ok decision) : Ruling principal decision := by
  rcases Emergency.eq_of_judge_eq_ok _ _ _ _ _ _ h with rfl | ⟨rejection, rfl⟩
  · exact .emergency hgrant
  · exact .rejected hgrant rejection

/-- An admitted request for a category is ruled on. -/
theorem ruling_of_authorizeCategory
    (hadmission : service.categoryAdmission principal name = .ok resource)
    (h : (service.authorizeCategory clock tracker principal name action).result = .ok decision) :
    Ruling principal decision := by
  rcases hgrant : principal.grant with _ | grant
  · rw [authorizeCategory_of_no_grant hadmission hgrant] at h
    cases h
    exact ruling_permitCategory hgrant service action resource
  · rw [authorizeCategory_of_grant hadmission hgrant] at h
    exact ruling_of_judge hgrant h

/-! ### Requests -/

/-- **The ways a request for a secret ends.** -/
theorem exit_of_authorize
    (h : (service.authorize clock tracker principal name action).result = .ok decision) :
    Exit principal decision := by
  rcases hadmission : admission principal name with denial | resource
  · rw [authorize_of_refused hadmission] at h
    cases h
    exact .refused (refusal_of_admission_eq_error hadmission)
  · obtain ⟨hauthenticated, -⟩ := check_of_admission_eq_ok hadmission
    refine .ruled hauthenticated ?_
    rcases hgrant : principal.grant with _ | grant
    · rw [authorize_of_no_grant hadmission hgrant] at h
      cases h
      exact ruling_permit hgrant service action resource
    · rw [authorize_of_grant hadmission hgrant] at h
      exact ruling_of_judge hgrant h

/-- **The ways a request for a category ends.** -/
theorem exit_of_authorizeCategory
    (h : (service.authorizeCategory clock tracker principal name action).result = .ok decision) :
    Exit principal decision := by
  rcases hadmission : service.categoryAdmission principal name with denial | resource
  · rw [authorizeCategory_of_refused hadmission] at h
    cases h
    exact .refused (refusal_of_categoryAdmission_eq_error hadmission)
  · obtain ⟨hauthenticated, -⟩ := admits_of_categoryAdmission_eq_ok hadmission
    exact .ruled hauthenticated (ruling_of_authorizeCategory hadmission h)

/-- The refusals within a batch. -/
theorem exit_of_mem_refused {entry : Value × Decision} (h : entry ∈ refused principal names) :
    Exit principal entry.2 :=
  .refused (refusal_of_admission_eq_error (admission_of_mem_refused h).2)

/-- A name that is admitted in a batch is so to an authenticated principal. -/
theorem authenticated_of_mem_admitted (h : resource ∈ admitted principal names) :
    principal.authenticated = true := by
  obtain ⟨name, -, hname⟩ := List.mem_filterMap.mp h
  rcases hadmission : admission principal name with denial | s
  · rw [hadmission] at hname
    cases hname
  · exact (check_of_admission_eq_ok hadmission).1

/-- The denials of a batch that is decided by permissions. -/
theorem exit_of_mem_permitEach {entry : Value × Decision}
    (hgate : admitted principal names = [] ∨ principal.grant = none)
    (h : entry ∈ (service.permitEach principal action names).1.denied) :
    Exit principal entry.2 := by
  unfold permitEach at h
  rcases List.mem_append.mp h with h | h
  · exact exit_of_mem_refused h
  · obtain ⟨decided, hdecided, rfl⟩ := List.mem_map.mp h
    obtain ⟨name, hname, rfl⟩ := List.mem_map.mp (List.mem_filter.mp hdecided).1
    have hgrant : principal.grant = none := by
      rcases hgate with hnone | hgrant
      · rw [hnone] at hname
        cases hname
      · exact hgrant
    exact .ruled (authenticated_of_mem_admitted hname) (ruling_permit hgrant service action name)

/-- The denials of a batch that is decided by a grant. -/
theorem exit_of_mem_batchOf {entry : Value × Decision} (hruling : Ruling principal decision)
    (h : entry ∈ (batchOf (admitted principal names) (refused principal names) decision).denied) :
    Exit principal entry.2 := by
  unfold batchOf at h
  split at h
  · exact exit_of_mem_refused h
  · rcases List.mem_append.mp h with h | h
    · exact exit_of_mem_refused h
    · obtain ⟨name, hname, rfl⟩ := List.mem_map.mp h
      exact .ruled (authenticated_of_mem_admitted hname) hruling

/-- **The ways a name is denied in a batch.** -/
theorem exit_of_mem_denied {batch : BatchDecision} {entry : Value × Decision}
    (h : (service.authorizeNames clock tracker principal names action).result = .ok batch)
    (hentry : entry ∈ batch.denied) : Exit principal entry.2 := by
  by_cases hempty : names = []
  · subst hempty
    rw [authorizeNames_nil] at h
    cases h
    cases hentry
  by_cases hgate : admitted principal names = [] ∨ principal.grant = none
  · rw [authorizeNames_of_no_judgement hempty hgate] at h
    cases h
    exact exit_of_mem_permitEach hgate hentry
  · rw [not_or] at hgate
    obtain ⟨grant, hgrant⟩ := Option.ne_none_iff_exists'.mp hgate.2
    rw [authorizeNames_of_grant hgate.1 hgrant] at h
    obtain ⟨decision, hdecision, rfl⟩ := Step.result_map_eq_ok_iff.mp h
    exact exit_of_mem_batchOf (ruling_of_judge hgrant hdecision) hentry

end exits

end Service

/-! ## Decisions fit their principals -/

/-- Whether a code says what is wrong with a grant. -/
def DenialCode.isEmergency : DenialCode → Bool
  | .notAuthenticated | .invalidResourceName | .noMatchingPermission => false
  | .emergencyMissingExpiration | .emergencyExpired | .emergencyExceedsMaximum
  | .emergencyMissingNonce | .emergencyReplayed | .emergencyUnverifiable => true

/-- A rejected grant is denied with a code that says what is wrong with it. -/
theorem Emergency.Rejection.isEmergency_code (rejection : Rejection) :
    rejection.code.isEmergency = true := by
  cases rejection <;> rfl

/-- The reason of a rejection is not empty. -/
theorem Emergency.Rejection.reason_ne_empty (rejection : Rejection) : rejection.reason ≠ "" := by
  unfold reason
  cases rejection with
  | tooLong expiration longest minutes =>
    intro hempty
    rw [String.append_eq_empty_iff, String.append_eq_empty_iff] at hempty
    exact absurd hempty.1.1 (by decide)
  | _ => dsimp only; decide

/-- The reason for which a name is refused is not empty. -/
theorem NameFault.message_ne_empty (fault : NameFault) : fault.message ≠ "" := by
  cases fault <;> decide

namespace Decision

/-- What can be told from a decision about the principal that it was made for. -/
structure Fits (principal : Principal) (decision : Decision) : Prop where
  /-- There is access or a code of a denial, and not both. -/
  code : decision.isAuthorized = true ↔ decision.code? = none
  /-- A code comes with a reason. -/
  reason : decision.code? = none ↔ decision.reason? = none
  /-- The reason says something. -/
  reason_ne_empty : decision.reason? ≠ some ""
  /-- Exactly who is not authenticated is told so. -/
  unauthenticated : decision.code? = some .notAuthenticated ↔ principal.authenticated = false
  /-- The status tells the same. -/
  status : decision.httpStatus = 401 ↔ principal.authenticated = false
  /-- What is wrong with a grant is told only to a principal that presents one. -/
  grant : ∀ code, decision.code? = some code → code.isEmergency = true →
    principal.grant ≠ none
  /-- That no permission matches is told only to a principal that presents none. -/
  permission : decision.code? = some .noMatchingPermission → principal.grant = none
  /-- Emergency access is access. -/
  emergency : decision.isEmergency = true → decision.isAuthorized = true
  /-- Access is emergency access exactly if the principal presents a grant. -/
  access : decision.isAuthorized = true → (decision.isEmergency = true ↔ principal.grant ≠ none)
  /-- The decision is about the caller who asked, with identity and type. -/
  caller : decision.code? ≠ some .notAuthenticated → decision.caller = principal.caller
  /-- Of a caller who is not authenticated nothing is told. -/
  unknown : decision.code? = some .notAuthenticated → decision.caller = ⟨none, "user"⟩

section fits

variable {principal : Principal} {decision : Decision}

/-- Access of an authenticated principal fits, if it is emergency access exactly for a grant. -/
theorem fits_granted (hauthenticated : principal.authenticated = true) {isEmergency : Bool}
    (hgrant : isEmergency = true ↔ principal.grant ≠ none) :
    Fits principal (.granted principal.caller isEmergency) where
  code := iff_of_true rfl rfl
  reason := iff_of_true rfl rfl
  reason_ne_empty := nofun
  unauthenticated := iff_of_false nofun (by rw [hauthenticated]; nofun)
  status := iff_of_false nofun (by rw [hauthenticated]; nofun)
  grant := nofun
  permission := nofun
  emergency := fun _ => rfl
  access := fun _ => hgrant
  caller := fun _ => rfl
  unknown := nofun

/-- A denial of an authenticated principal fits, if it has a reason, and its code agrees with
whether there is a grant. -/
theorem fits_deny (hauthenticated : principal.authenticated = true) {code : DenialCode}
    {reason : String} (hreason : reason ≠ "") (hcode : code ≠ .notAuthenticated)
    (hgrant : code.isEmergency = true → principal.grant ≠ none)
    (hpermission : code = .noMatchingPermission → principal.grant = none) :
    Fits principal (.deny principal.caller code reason) := by
  have hcode? : (deny principal.caller code reason).code? = some code := rfl
  refine
    { code := iff_of_false nofun nofun
      reason := iff_of_false nofun nofun
      reason_ne_empty := fun h => hreason (Option.some.inj h)
      unauthenticated := iff_of_false (fun h => hcode (Option.some.inj h))
        (by rw [hauthenticated]; nofun)
      status := iff_of_false ?_ (by rw [hauthenticated]; nofun)
      grant := ?_
      permission := fun h => hpermission (Option.some.inj h)
      emergency := nofun
      access := nofun
      caller := fun _ => rfl
      unknown := fun h => absurd (Option.some.inj h) hcode }
  · unfold httpStatus
    rw [hcode?]
    cases code <;> first | exact absurd rfl hcode | nofun
  · intro given hgiven
    rw [hcode?, Option.some.injEq] at hgiven
    rw [← hgiven]
    exact hgrant

/-- A refusal fits. -/
theorem Refusal.fits (h : Refusal principal decision) : Fits principal decision := by
  cases h with
  | unauthenticated hunknown =>
    exact
      { code := iff_of_false nofun nofun
        reason := iff_of_false nofun nofun
        reason_ne_empty := by decide
        unauthenticated := iff_of_true rfl hunknown
        status := iff_of_true rfl hunknown
        grant := by
          intro code hcode hemergency
          cases hcode
          cases hemergency
        permission := nofun
        emergency := nofun
        access := nofun
        caller := fun hcode => absurd rfl hcode
        unknown := fun _ => rfl }
  | name hauthenticated fault =>
    exact fits_deny hauthenticated fault.message_ne_empty nofun nofun nofun

/-- A ruling on a request of an authenticated principal fits. -/
theorem Ruling.fits (hauthenticated : principal.authenticated = true)
    (h : Ruling principal decision) : Fits principal decision := by
  cases h with
  | permitted hgrant =>
    exact fits_granted hauthenticated (iff_of_false nofun (not_not_intro hgrant))
  | lacking hgrant action resource =>
    refine fits_deny hauthenticated ?_ nofun nofun fun _ => hgrant
    intro hempty
    rw [String.append_eq_empty_iff, String.append_eq_empty_iff,
      String.append_eq_empty_iff] at hempty
    exact absurd hempty.1.1.1 (by decide)
  | emergency hgrant =>
    exact fits_granted hauthenticated (iff_of_true rfl (by rw [hgrant]; nofun))
  | rejected hgrant rejection =>
    refine fits_deny hauthenticated rejection.reason_ne_empty ?_ (fun _ => by rw [hgrant]; nofun) ?_
    · intro hcode
      have hemergency := rejection.isEmergency_code
      rw [hcode] at hemergency
      cases hemergency
    · intro hcode
      exact absurd hcode rejection.code_ne_noMatchingPermission

/-- A ruling is not about the name of what is asked for. -/
theorem Ruling.code?_ne_invalidResourceName (h : Ruling principal decision) :
    decision.code? ≠ some .invalidResourceName := by
  cases h with
  | permitted | emergency => nofun
  | lacking => nofun
  | rejected hgrant rejection =>
    intro hcode
    have hemergency := rejection.isEmergency_code
    rw [Option.some.inj hcode] at hemergency
    cases hemergency

/-- However a decision comes about, it fits. -/
theorem Exit.fits (h : Exit principal decision) : Fits principal decision := by
  cases h with
  | refused hrefusal => exact hrefusal.fits
  | ruled hauthenticated hruling => exact hruling.fits hauthenticated

end fits

end Decision

/-- The decisions that an answer shows: the one about a secret or a category, and the denials of a
batch. -/
def Answer.decisions : Answer → List Decision
  | .decision d => [d]
  | .batch b => b.denied.map (·.2)

/-- **Decisions fit their principals.** Whatever the service, the tracker, the caller and what is
asked, each decision that an answer shows fits the principal of the call: it is access without code
or a denial with code and reason, its status and code tell whether the principal is authenticated
and presents a grant, access is emergency access exactly with a grant, and the caller is the one who
asked, or nobody if that one is not authenticated. -/
theorem decisions_fit_their_principal {call : Call} {tracker : Tracker} {answer : Answer}
    (h : (call.step tracker).result = .ok answer) :
    ∀ decision ∈ answer.decisions, decision.Fits call.principal := by
  intro decision hdecision
  unfold Call.step at h
  rcases htarget : call.target with name | name | names
  · rw [htarget] at h
    obtain ⟨given, hgiven, rfl⟩ := Step.result_map_eq_ok_iff.mp h
    rw [List.mem_singleton.mp hdecision]
    exact (Service.exit_of_authorize hgiven).fits
  · rw [htarget] at h
    obtain ⟨given, hgiven, rfl⟩ := Step.result_map_eq_ok_iff.mp h
    rw [List.mem_singleton.mp hdecision]
    exact (Service.exit_of_authorizeCategory hgiven).fits
  · rw [htarget] at h
    obtain ⟨batch, hbatch, rfl⟩ := Step.result_map_eq_ok_iff.mp h
    obtain ⟨entry, hentry, rfl⟩ := List.mem_map.mp hdecision
    unfold Service.authorizeMany at hbatch
    rcases hread : Service.namesOf names with fault | distinct
    · rw [hread] at hbatch
      cases hbatch
    · rw [hread] at hbatch
      exact (Service.exit_of_mem_denied hbatch hentry).fits

/-- The request of a caller whose grant has expired, and who has a permission for everything, for a
text that is no name and for a secret. -/
def Call.tooLate : Call :=
  ⟨⟨⟨[]⟩, .int 3600⟩, .int 1800000100, Principal.urgent [.text "secrets:*"],
    .several (.list [.text "x y", .text "a"]), .read⟩

/-- Both are denied, each for a reason of its own, and both denials fit. -/
theorem denials_of_tooLate_fit :
    ∃ answer, (Call.tooLate.step .empty).result = .ok answer ∧
      answer.decisions.map (·.code?) = [some .invalidResourceName, some .emergencyExpired] ∧
      ∀ decision ∈ answer.decisions, decision.Fits Call.tooLate.principal := by
  obtain ⟨answer, hanswer, hcodes⟩ : ∃ answer, (Call.tooLate.step .empty).result = .ok answer ∧
      answer.decisions.map (·.code?) = [some .invalidResourceName, some .emergencyExpired] :=
    ⟨_, rfl, rfl⟩
  exact ⟨answer, hanswer, hcodes, decisions_fit_their_principal hanswer⟩

end SecretAccess
