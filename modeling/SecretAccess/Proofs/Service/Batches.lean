import SecretAccess.Proofs.Service.GrantAlone
import SecretAccess.Proofs.Table

/-!
# Batches and single requests

A request for several secrets is set against the requests for each of them alone.

* **By permissions** (`batch_decides_each_alone`): a principal that no grant decides for is
  answered, name by name, what it would be answered for that name alone. `BatchDecision.ofEach` says
  which batch this is: granted are the names with access, denied the others, first those that are
  refused and then those that lack a permission, each group in the order of the request. Nothing is
  lost and nothing occurs twice (`BatchDecision.perm_ofEach`).
* **By a grant** (`emergency_batch_is_all_or_nothing`): all names of secrets get the one decision
  that any of them would get alone, and the tracker ends up as after that one request. A batch
  without the name of a secret does not reach the tracker.

Repeated names count where they first occur, which is `List.eraseDups` of the names.
-/

namespace SecretAccess

/-! ## Distinct names -/

/-- As keys, texts are distinct if they differ. -/
theorem Value.distinctKeys_texts (names : List String) :
    distinctKeys (names.map text) = names.eraseDups.map text := by
  induction names with
  | nil => rfl
  | cons first rest ih =>
    rw [List.map_cons, distinctKeys, ih, List.eraseDups_cons, List.map_cons, List.filter_map,
      eraseDups_filter]
    congr 2
    apply List.filter_congr
    intro other _
    by_cases hsame : first = other
    · simp [sameKey, hsame]
    · simp [sameKey, hsame, Ne.symm hsame]

/-! ## Names that may be asked about -/

namespace ResourceName

/-- Whether a text is the name of a secret. -/
def isName (name : String) : Bool := (check (.text name)).isOk

/-- A name passes as it is. -/
theorem check_eq_ok_of_isName {name : String} (h : isName name = true) :
    check (.text name) = .ok name := by
  unfold isName at h
  rcases hcheck : check (.text name) with fault | s
  · rw [hcheck] at h
    cases h
  · have hsame : Value.text name = .text s := (check_eq_ok_iff.mp hcheck).1
    rw [Value.text.injEq] at hsame
    rw [hsame]

end ResourceName

namespace Service

variable {service : Service} {clock : Number} {tracker : Tracker} {principal : Principal}
  {action : Action} {names : List String} {grant : Grant}

/-- Whether a principal may ask about a secret by a name: it is authenticated, and the name is
one. -/
def mayAsk (principal : Principal) (name : String) : Bool :=
  principal.authenticated && ResourceName.isName name

/-- What may be asked about is admitted. -/
theorem admission_of_mayAsk {name : String} (h : mayAsk principal name = true) :
    admission principal (.text name) = .ok name := by
  obtain ⟨hauthenticated, hname⟩ := Bool.and_eq_true_iff.mp h
  exact admission_of_check hauthenticated (ResourceName.check_eq_ok_of_isName hname)

/-- Nothing else is. -/
theorem admission_of_not_mayAsk {name : String} (h : mayAsk principal name = false) :
    ∃ denial, admission principal (.text name) = .error denial := by
  unfold admission
  by_cases hauthenticated : principal.authenticated = true
  · unfold mayAsk ResourceName.isName at h
    rw [hauthenticated, Bool.true_and] at h
    rw [if_pos hauthenticated]
    rcases hcheck : ResourceName.check (.text name) with fault | s
    · exact ⟨_, rfl⟩
    · rw [hcheck] at h
      cases h
  · rw [if_neg hauthenticated]
    exact ⟨_, rfl⟩

/-- The names of a batch that are admitted are those that may be asked about. -/
theorem admitted_texts (principal : Principal) (names : List String) :
    admitted principal (names.map .text) = names.filter (mayAsk principal) := by
  unfold admitted
  induction names with
  | nil => rfl
  | cons first rest ih =>
    rw [List.map_cons]
    rcases hfirst : mayAsk principal first with _ | _
    · obtain ⟨denial, hadmission⟩ := admission_of_not_mayAsk hfirst
      rw [List.filterMap_cons_none (by rw [hadmission]; rfl), ih,
        List.filter_cons_of_neg (by rw [hfirst]; exact Bool.false_ne_true)]
    · rw [List.filterMap_cons_some (by rw [admission_of_mayAsk hfirst]; rfl), ih,
        List.filter_cons_of_pos hfirst]

/-- The names of a batch that are refused are the others, with the denials of their admissions. -/
theorem refused_texts {denial : String → Decision} (names : List String)
    (h : ∀ name, mayAsk principal name = false →
      admission principal (.text name) = .error (denial name)) :
    refused principal (names.map .text) =
      (names.filter (!mayAsk principal ·)).map fun name => (.text name, denial name) := by
  unfold refused
  induction names with
  | nil => rfl
  | cons first rest ih =>
    rw [List.map_cons]
    rcases hfirst : mayAsk principal first with _ | _
    · rw [List.filterMap_cons_some (by rw [h first hfirst]), ih,
        List.filter_cons_of_pos (by rw [hfirst]; rfl), List.map_cons]
    · rw [List.filterMap_cons_none (by rw [admission_of_mayAsk hfirst]), ih,
        List.filter_cons_of_neg (by rw [hfirst]; exact Bool.false_ne_true)]

/-- A batch of texts is decided about its distinct names. -/
theorem authorizeMany_texts (names : List String) :
    service.authorizeMany clock tracker principal (.list (names.map .text)) action =
      service.authorizeNames clock tracker principal (names.eraseDups.map .text) action := by
  unfold authorizeMany
  rw [namesOf_texts, Value.distinctKeys_texts]

/-! ## Each name alone -/

/-- What a principal is answered about one secret if no grant decides. -/
def decisionAlone (service : Service) (principal : Principal) (action : Action) (name : String) :
    Decision :=
  match admission principal (.text name) with
  | .error denial => denial
  | .ok secret => (service.permit principal action secret).1

/-- About a name that may not be asked about, that is the denial of its admission. -/
theorem admission_eq_decisionAlone (service : Service) (action : Action) {name : String}
    (h : mayAsk principal name = false) :
    admission principal (.text name) = .error (service.decisionAlone principal action name) := by
  obtain ⟨denial, hadmission⟩ := admission_of_not_mayAsk h
  unfold decisionAlone
  rw [hadmission]

/-- Such a name is not granted. -/
theorem isAuthorized_decisionAlone_of_not_mayAsk {name : String}
    (h : mayAsk principal name = false) :
    (service.decisionAlone principal action name).isAuthorized = false := by
  obtain ⟨caller, code, reason, hdeny⟩ :=
    eq_deny_of_admission_eq_error (admission_eq_decisionAlone service action h)
  rw [hdeny]
  rfl

/-- About any other name, that is the decision by permissions. -/
theorem decisionAlone_of_mayAsk {name : String} (h : mayAsk principal name = true) :
    service.decisionAlone principal action name = (service.permit principal action name).1 := by
  unfold decisionAlone
  rw [admission_of_mayAsk h]

/-- A principal that is not authenticated or presents no grant is answered so at every clock reading
and with every tracker, which stays as it is. -/
theorem authorize_eq_decisionAlone (h : principal.authenticated = false ∨ principal.grant = none)
    (clock : Number) (tracker : Tracker) (name : String) :
    ∃ journal, service.authorize clock tracker principal (.text name) action =
      ⟨.ok (service.decisionAlone principal action name), tracker, journal⟩ := by
  unfold decisionAlone
  rcases hadmission : admission principal (.text name) with denial | secret
  · rw [authorize_of_refused hadmission]
    exact ⟨_, rfl⟩
  · have hgrant : principal.grant = none := by
      rcases h with hunknown | hgrant
      · unfold admission at hadmission
        rw [hunknown] at hadmission
        cases hadmission
      · exact hgrant
    rw [authorize_of_no_grant hadmission hgrant]
    exact ⟨_, rfl⟩

end Service

/-! ## Batches by permissions -/

namespace BatchDecision

/-- The batch in which each of some names is decided alone: granted are the names with access;
denied are first the names that may not be asked about, then the others without access. -/
def ofEach (names : List String) (mayAsk : String → Bool) (alone : String → Decision) :
    BatchDecision where
  granted := names.filter fun name => (alone name).isAuthorized
  denied := (names.filter (!mayAsk ·) ++
    names.filter fun name => mayAsk name && !(alone name).isAuthorized).map
      fun name => (.text name, alone name)
  isEmergency := false

section ofEach

variable {names : List String} {mayAsk : String → Bool} {alone : String → Decision}

/-- What is denied are the names without access, be it that they may not be asked about or that they
lack a permission. -/
theorem perm_denied_ofEach (h : ∀ name, mayAsk name = false → (alone name).isAuthorized = false) :
    ((ofEach names mayAsk alone).denied.map (·.1)).Perm
      ((names.filter fun name => !(alone name).isAuthorized).map .text) := by
  have hkeys : (ofEach names mayAsk alone).denied.map (·.1) =
      (names.filter (!mayAsk ·) ++
        names.filter fun name => mayAsk name && !(alone name).isAuthorized).map .text := by
    unfold ofEach
    rw [List.map_map]
    rfl
  have hrefused : (names.filter fun name => !mayAsk name && !(alone name).isAuthorized) =
      names.filter (!mayAsk ·) := by
    apply List.filter_congr
    intro name _
    rcases hname : mayAsk name with _ | _
    · rw [h name hname]
      rfl
    · rfl
  have hgroups := List.filter_append_perm (!mayAsk ·)
    (names.filter fun name => !(alone name).isAuthorized)
  rw [List.filter_filter, List.filter_filter] at hgroups
  simp only [Bool.not_not, hrefused] at hgroups
  rw [hkeys]
  exact hgroups.map Value.text

/-- **Nothing is lost and nothing occurs twice**: what is granted and what is denied are the
names. -/
theorem perm_ofEach (h : ∀ name, mayAsk name = false → (alone name).isAuthorized = false) :
    ((ofEach names mayAsk alone).granted.map Value.text ++
      (ofEach names mayAsk alone).denied.map (·.1)).Perm (names.map .text) := by
  have hall :=
    (List.filter_append_perm (fun name => (alone name).isAuthorized) names).map Value.text
  rw [List.map_append] at hall
  exact ((perm_denied_ofEach h).append_left _).trans hall

/-- Everything is granted if there is a name and each has access. -/
theorem isFullyAuthorized_ofEach_iff
    (h : ∀ name, mayAsk name = false → (alone name).isAuthorized = false) :
    (ofEach names mayAsk alone).isFullyAuthorized = true ↔
      names ≠ [] ∧ ∀ name ∈ names, (alone name).isAuthorized = true := by
  have hdenied : (ofEach names mayAsk alone).denied = [] ↔
      ∀ name ∈ names, (alone name).isAuthorized = true := by
    have hkeys : ((ofEach names mayAsk alone).denied.map (·.1)).Perm _ := perm_denied_ofEach h
    have hlength := hkeys.length_eq
    rw [List.length_map, List.length_map] at hlength
    rw [← List.length_eq_zero_iff, hlength, List.length_eq_zero_iff, List.filter_eq_nil_iff]
    simp only [Bool.not_eq_true', Bool.not_eq_false]
  unfold isFullyAuthorized
  rw [Bool.and_eq_true, List.isEmpty_iff, hdenied]
  apply and_congr_left
  intro hall
  have hgranted : (ofEach names mayAsk alone).granted = names := List.filter_eq_self.mpr hall
  rw [hgranted, Bool.not_eq_true', ← Bool.not_eq_true, List.isEmpty_iff]

end ofEach

end BatchDecision

namespace Service

variable {service : Service} {principal : Principal} {action : Action}

/-- What permissions make of a batch is what they make of each name alone. -/
theorem permitEach_texts (names : List String) :
    (service.permitEach principal action (names.map .text)).1 =
      .ofEach names (mayAsk principal) (service.decisionAlone principal action) := by
  have hgranted : (names.filter fun name => (service.permit principal action name).1.isAuthorized &&
      mayAsk principal name) =
        names.filter fun name => (service.decisionAlone principal action name).isAuthorized := by
    apply List.filter_congr
    intro name _
    rcases hname : mayAsk principal name with _ | _
    · rw [isAuthorized_decisionAlone_of_not_mayAsk hname, Bool.and_false]
    · rw [decisionAlone_of_mayAsk hname, Bool.and_true]
  have hlacking : (names.filter fun name =>
      !(service.permit principal action name).1.isAuthorized && mayAsk principal name) =
        names.filter fun name =>
          mayAsk principal name && !(service.decisionAlone principal action name).isAuthorized := by
    apply List.filter_congr
    intro name _
    rcases hname : mayAsk principal name with _ | _
    · rw [Bool.and_false, Bool.false_and]
    · rw [decisionAlone_of_mayAsk hname, Bool.and_comm]
  unfold permitEach BatchDecision.ofEach
  rw [admitted_texts, refused_texts names fun name => admission_eq_decisionAlone service action]
  simp only [List.filter_map, List.map_map, List.filter_filter, List.map_append,
    BatchDecision.mk.injEq, and_true]
  refine ⟨(List.map_id _).trans hgranted, ?_⟩
  congr 1
  rw [← hlacking]
  apply List.map_congr_left
  intro name hname
  have hasked : mayAsk principal name = true :=
    (Bool.and_eq_true_iff.mp (List.mem_filter.mp hname).2).2
  rw [decisionAlone_of_mayAsk hasked]
  rfl

/-- A batch of texts by a principal that no grant decides for. -/
theorem authorizeMany_of_no_judgement
    (h : principal.authenticated = false ∨ principal.grant = none) (service : Service)
    (clock : Number) (tracker : Tracker) (action : Action) (names : List String) :
    ∃ journal, service.authorizeMany clock tracker principal (.list (names.map .text)) action =
      ⟨.ok (.ofEach names.eraseDups (mayAsk principal) (service.decisionAlone principal action)),
        tracker, journal⟩ := by
  rw [authorizeMany_texts]
  by_cases hnames : names = []
  · subst hnames
    exact ⟨[], rfl⟩
  · have hasked : names.eraseDups.map Value.text ≠ [] := by
      rw [Ne, List.map_eq_nil_iff]
      exact eraseDups_ne_nil_iff.mpr hnames
    have hgate : admitted principal (names.eraseDups.map .text) = [] ∨ principal.grant = none := by
      rcases h with hunknown | hgrant
      · left
        rw [admitted_texts, List.filter_eq_nil_iff]
        intro name _
        unfold mayAsk
        rw [hunknown]
        exact Bool.false_ne_true
      · exact Or.inr hgrant
    rw [authorizeNames_of_no_judgement hasked hgate]
    unfold untouched
    rw [permitEach_texts]
    exact ⟨_, rfl⟩

/-- **By permissions a batch decides each name as alone.** Let a principal not be authenticated, or
present no grant. About a secret alone it is answered one decision, at every clock reading and with
every tracker. A batch of any texts is then answered so that

1. its distinct names are decided as alone, in the order of the request (`BatchDecision.ofEach`), it
   is no emergency access, and the tracker stays as it is;
2. each distinct name is granted or denied, and not both;
3. it is fully authorized if and only if something is asked for and all of it is granted alone. -/
theorem batch_decides_each_alone
    (h : principal.authenticated = false ∨ principal.grant = none) (service : Service)
    (clock : Number) (tracker : Tracker) (action : Action) (names : List String) :
    ∃ alone : String → Decision,
      (∀ name clock tracker, ∃ journal,
        service.authorize clock tracker principal (.text name) action =
          ⟨.ok (alone name), tracker, journal⟩) ∧
      ∃ batch journal,
        service.authorizeMany clock tracker principal (.list (names.map .text)) action =
          ⟨.ok batch, tracker, journal⟩ ∧
        batch = .ofEach names.eraseDups (mayAsk principal) alone ∧
        (batch.granted.map Value.text ++ batch.denied.map (·.1)).Perm
          (names.eraseDups.map .text) ∧
        names.eraseDups.Nodup ∧
        (batch.isFullyAuthorized = true ↔
          names ≠ [] ∧ ∀ name ∈ names, (alone name).isAuthorized = true) := by
  have hrefused : ∀ name, mayAsk principal name = false →
      (service.decisionAlone principal action name).isAuthorized = false :=
    fun name => isAuthorized_decisionAlone_of_not_mayAsk
  obtain ⟨journal, hstep⟩ := authorizeMany_of_no_judgement h service clock tracker action names
  refine ⟨service.decisionAlone principal action, ?_, _, journal, hstep, rfl,
    BatchDecision.perm_ofEach hrefused, nodup_eraseDups names, ?_⟩
  · intro name clock tracker
    exact authorize_eq_decisionAlone h clock tracker name
  · rw [BatchDecision.isFullyAuthorized_ofEach_iff hrefused, eraseDups_ne_nil_iff]
    simp only [List.mem_eraseDups]

/-- A caller with a permission for one secret. -/
def readerOfOne : Principal := ⟨⟨some "u", "user"⟩, [.text "Secrets:Read:B"], none, true⟩

/-- Of a text that is no name, a secret that is permitted and one that is not, the second is
granted; the first is denied before the last, although it was asked for after it. -/
theorem batch_with_every_outcome :
    readerOfOne.grant = none ∧ ∃ batch journal,
      Service.authorizeMany ⟨⟨[]⟩, .int 3600⟩ (.int 0) .empty readerOfOne
          (.list (["a", "b", "x y", "b"].map .text)) .read = ⟨.ok batch, .empty, journal⟩ ∧
        batch.granted = ["b"] ∧ batch.denied.map (·.1) = [.text "x y", .text "a"] ∧
        batch.isFullyAuthorized = false := by
  have hgrant : readerOfOne.grant = none := rfl
  obtain ⟨alone, halone, batch, journal, hstep, rfl, -, -, hfull⟩ := batch_decides_each_alone
    (Or.inr hgrant) ⟨⟨[]⟩, .int 3600⟩ (.int 0) .empty .read ["a", "b", "x y", "b"]
  have heach : ∀ name, (Service.authorize ⟨⟨[]⟩, .int 3600⟩ (.int 0) .empty readerOfOne (.text name)
      .read).result.toOption.map (·.isAuthorized) = some (alone name).isAuthorized := by
    intro name
    obtain ⟨journal, hname⟩ := halone name (.int 0) .empty
    rw [hname]
    rfl
  have ha : (alone "a").isAuthorized = false :=
    Option.some.inj ((heach "a").symm.trans (by decide +kernel))
  have hb : (alone "b").isAuthorized = true :=
    Option.some.inj ((heach "b").symm.trans (by decide +kernel))
  have hx : (alone "x y").isAuthorized = false :=
    Option.some.inj ((heach "x y").symm.trans (by decide +kernel))
  have hnames : ["a", "b", "x y", "b"].eraseDups = ["a", "b", "x y"] := by decide
  have hasked : mayAsk readerOfOne "a" = true ∧ mayAsk readerOfOne "b" = true ∧
      mayAsk readerOfOne "x y" = false := by decide +kernel
  refine ⟨hgrant, _, journal, hstep, ?_, ?_, ?_⟩
  · simp [BatchDecision.ofEach, hnames, ha, hb, hx]
  · simp [BatchDecision.ofEach, hnames, hasked, ha, hb]
  · rw [← Bool.not_eq_true, hfull]
    rintro ⟨-, hall⟩
    rw [hall "a" List.mem_cons_self] at ha
    cases ha

/-! ## Batches by a grant -/

/-- The distinct names of secrets among some texts, in the order of the request. -/
def secretNames (names : List String) : List String := names.eraseDups.filter ResourceName.isName

/-- An authenticated principal may ask about all names of secrets. -/
theorem mayAsk_of_authenticated (h : principal.authenticated = true) :
    mayAsk principal = ResourceName.isName := by
  funext name
  unfold mayAsk
  rw [h, Bool.true_and]

/-- A request by an authenticated principal with a grant for a secret by its name is the judgement
of the grant, as it would be for any other resource. -/
theorem authorize_of_name {grant : Grant} (hauthenticated : principal.authenticated = true)
    (hgrant : principal.grant = some grant) (service : Service) (clock : Number)
    (tracker : Tracker) (action : Action) (resource : Value) {name : String}
    (hname : ResourceName.isName name = true) :
    (service.authorize clock tracker principal (.text name) action).result =
        (Emergency.judge service.longestGrant clock tracker grant resource
          principal.caller).result ∧
      (service.authorize clock tracker principal (.text name) action).tracker =
        (Emergency.judge service.longestGrant clock tracker grant resource
          principal.caller).tracker := by
  have hasked : mayAsk principal name = true := by
    rw [mayAsk_of_authenticated hauthenticated, hname]
  rw [authorize_of_grant (admission_of_mayAsk hasked) hgrant]
  exact Emergency.judge_of_other_resource _ _ _ _ _ _ _

/-- **By a grant a batch is all or nothing.** Let an authenticated principal present a grant, and
ask for any texts at once.

1. The distinct texts that are no names of secrets are denied for that, in any case.
2. If none is the name of a secret, nothing is granted, and the tracker stays as it is.
3. Otherwise, if judging the grant has an answer, then it is what each of the names is answered
   alone, and what all of them are answered in the batch: all are granted, as emergency access, or
   none. The tracker ends up as after the request for any one of them. -/
theorem emergency_batch_is_all_or_nothing {grant : Grant}
    (hauthenticated : principal.authenticated = true) (hgrant : principal.grant = some grant)
    (service : Service) (clock : Number) (tracker : Tracker) (action : Action)
    (names : List String) :
    ∃ refusals : List (Value × Decision),
      refusals.map (·.1) = (names.eraseDups.filter (!ResourceName.isName ·)).map .text ∧
      (∀ entry ∈ refusals, entry.2.code? = some .invalidResourceName) ∧
      (secretNames names = [] → ∃ journal,
        service.authorizeMany clock tracker principal (.list (names.map .text)) action =
          ⟨.ok ⟨[], refusals, false⟩, tracker, journal⟩) ∧
      (secretNames names ≠ [] → ∀ resource decision,
        (Emergency.judge service.longestGrant clock tracker grant resource
          principal.caller).result = .ok decision →
        (service.authorizeMany clock tracker principal (.list (names.map .text)) action).result =
            .ok (if decision.isAuthorized then ⟨secretNames names, refusals, true⟩
              else ⟨[], refusals ++ (secretNames names).map fun name => (.text name, decision),
                false⟩) ∧
          ∀ name ∈ secretNames names,
            (service.authorize clock tracker principal (.text name) action).result =
                .ok decision ∧
              (service.authorizeMany clock tracker principal (.list (names.map .text))
                  action).tracker =
                (service.authorize clock tracker principal (.text name) action).tracker) := by
  have hadmitted : admitted principal (names.eraseDups.map .text) = secretNames names := by
    rw [admitted_texts, mayAsk_of_authenticated hauthenticated]
    rfl
  rw [authorizeMany_texts]
  refine ⟨refused principal (names.eraseDups.map .text), ?_, ?_, ?_, ?_⟩
  · rw [refused_texts names.eraseDups fun name => admission_eq_decisionAlone service action,
      List.map_map, mayAsk_of_authenticated hauthenticated]
    rfl
  · intro entry hentry
    obtain ⟨-, hadmission⟩ := admission_of_mem_refused hentry
    rw [code?_of_admission_eq_error hadmission, if_pos hauthenticated]
  · intro hnone
    exact authorizeNames_of_admitted_eq_nil clock tracker (hadmitted.trans hnone)
  · intro hsome resource decision hdecision
    rw [authorizeNames_of_grant (by rw [hadmitted]; exact hsome) hgrant, hadmitted]
    obtain ⟨hresult, htracker⟩ := Emergency.judge_of_other_resource service.longestGrant clock
      tracker grant (.text ("batch:" ++ Text.join "," (secretNames names))) resource
      principal.caller
    constructor
    · rw [Step.result_map_eq_ok_iff]
      exact ⟨decision, hresult.trans hdecision, rfl⟩
    · intro name hname
      obtain ⟨halone, hafter⟩ := authorize_of_name hauthenticated hgrant service clock tracker
        action resource (List.mem_filter.mp hname).2
      exact ⟨halone.trans hdecision, htracker.trans hafter.symm⟩

/-- Two secrets, one of them asked for twice, and a text that is no name: one judgement gives access
to both secrets. -/
theorem emergency_batch_of_two :
    (Principal.urgent []).grant = some ⟨none, .text "1800000060", some "n"⟩ ∧
      ∃ refusals, refusals.map (·.1) = [Value.text "x y"] ∧
        (Service.authorizeMany ⟨⟨[]⟩, .int 3600⟩ (.int 1800000000) .empty (Principal.urgent [])
            (.list (["b", "x y", "a", "b"].map .text)) .read).result =
          .ok ⟨["b", "a"], refusals, true⟩ := by
  have hgrant : (Principal.urgent []).grant =
      some ⟨none, .text "1800000060", some "n"⟩ := rfl
  have hauthenticated : (Principal.urgent []).authenticated = true := rfl
  obtain ⟨refusals, hkeys, -, -, hsome⟩ := emergency_batch_is_all_or_nothing hauthenticated hgrant
    ⟨⟨[]⟩, .int 3600⟩ (.int 1800000000) .empty .read ["b", "x y", "a", "b"]
  have hnames : secretNames ["b", "x y", "a", "b"] = ["b", "a"] := by decide +kernel
  have hjudged : (Emergency.judge (.int 3600) (.int 1800000000) .empty
      ⟨none, .text "1800000060", some "n"⟩ .null (Principal.urgent []).caller).result =
        .ok (.grantEmergency (Principal.urgent []).caller) := by rfl
  rw [hnames] at hsome
  obtain ⟨hresult, -⟩ := hsome (List.cons_ne_nil _ _) .null _ hjudged
  refine ⟨hgrant, refusals, ?_, hresult⟩
  rw [hkeys]
  have hothers : (["b", "x y", "a", "b"].eraseDups.filter (!ResourceName.isName ·)) = ["x y"] := by
    decide +kernel
  rw [hothers]
  rfl

end Service

end SecretAccess
