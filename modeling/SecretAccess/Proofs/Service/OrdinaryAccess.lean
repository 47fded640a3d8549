import SecretAccess.Proofs.Permission.Grammar
import SecretAccess.Proofs.Resource.Categories
import SecretAccess.Proofs.Resource.Naming
import SecretAccess.Proofs.Service.Call

/-!
# Ordinary access

Without an emergency grant, an authenticated principal has access exactly by the texts of its
permissions. **`ordinary_access_iff`**: a request is granted if and only if some permission, in any
letter case, is for its action on everything, on its secret by name, or on its category, provided
that a category with a colon in it cannot be written as a segment. It follows that neither the order
of the permissions, nor how often one occurs, nor an entry without a scope, nor the known categories
matter.

The gates leave two questions to the permissions: `names_secret_iff` and `names_category_iff` say
which segments name a secret and a category. Both rest on the names and categories being segments
already, which `ResourceName.isSegment_of_check` and `Service.isLowered_of_mem_knownCategories`
provide.
-/

namespace SecretAccess

/-! ## Names are segments -/

namespace ResourceName

/-- The name of a secret is not empty and holds no colon, and nor is or does its lower case. -/
theorem isSegment_of_check {name : String} (h : check (.text name) = .ok name) :
    Scope.IsSegment name ∧ Scope.IsSegment (Text.lower name) := by
  have hname : Scope.IsSegment name := by
    constructor
    · rintro rfl
      cases h
    · intro hcolon
      exact absurd (mem_of_check h hcolon) (by decide)
  refine ⟨hname, ?_, ?_⟩
  · rw [Ne, Text.lower_eq_empty_iff]
    exact hname.1
  · rw [Text.colon_mem_lower_iff]
    exact hname.2

end ResourceName

/-! ## What permissions give access to -/

/-- Whether a step is answered with access. -/
def Step.GivesAccess (step : Step Decision) : Prop :=
  ∃ decision, step.result = .ok decision ∧ decision.isAuthorized = true

/-- A step that is answered with access under some condition gives access under that condition. -/
theorem givesAccess_iff {step : Step Decision} {condition : Prop}
    (h : ∃ decision, step.result = .ok decision ∧ (decision.isAuthorized = true ↔ condition)) :
    step.GivesAccess ↔ condition := by
  obtain ⟨decision, hresult, hiff⟩ := h
  rw [← hiff]
  constructor
  · rintro ⟨other, hother, hyes⟩
    rw [hresult, Except.ok.injEq] at hother
    rw [hother]
    exact hyes
  · intro hyes
    exact ⟨decision, hresult, hyes⟩

namespace Principal

/-- Whether some permission of a principal opens, for an action, what `named` holds of. -/
def MayAccess (principal : Principal) (action : Action) (named : String → Prop) : Prop :=
  ∃ permission ∈ principal.permissions, Scope.Opens action named permission

/-- Whether two principals have the same permissions, apart from their order, from repetitions and
from entries that have no scope. -/
def SamePermissions (principal other : Principal) : Prop :=
  ∀ permission scope, Scope.ofValue? [] permission = some scope →
    (permission ∈ principal.permissions ↔ permission ∈ other.permissions)

/-- The same permissions give the same access. -/
theorem SamePermissions.mayAccess_iff {principal other : Principal}
    (h : principal.SamePermissions other) {action : Action} {named : String → Prop}
    (hsegment : ∀ y, named y → Scope.IsSegment y) :
    principal.MayAccess action named ↔ other.MayAccess action named := by
  unfold MayAccess
  constructor
  · rintro ⟨permission, hmem, hopens⟩
    obtain ⟨scope, hscope, -⟩ := Scope.exists_scope_of_opens [] hsegment hopens
    exact ⟨permission, (h permission scope hscope).mp hmem, hopens⟩
  · rintro ⟨permission, hmem, hopens⟩
    obtain ⟨scope, hscope, -⟩ := Scope.exists_scope_of_opens [] hsegment hopens
    exact ⟨permission, (h permission scope hscope).mpr hmem, hopens⟩

end Principal

namespace Service

variable {service : Service} {principal : Principal} {action : Action}

/-- Whether a text passes as the name of a category: a category of that name, in any letter case, is
known, or a secret could have that name. -/
def Admits (service : Service) (category : String) : Prop :=
  Text.lower category ∈ service.knownCategories ∨
    ResourceName.check (.text category) = .ok category

/-- An authenticated principal may ask about every category whose name passes. -/
theorem categoryAdmission_of_admits (hauthenticated : principal.authenticated = true)
    {category : String} (h : service.Admits category) :
    service.categoryAdmission principal (.text category) = .ok category := by
  unfold categoryAdmission
  by_cases hknown : Text.lower category ∈ service.knownCategories
  · simp only [Value.text?, Option.filter_some, List.contains_iff_mem.mpr hknown, if_true,
      hauthenticated]
  · have hunknown : service.knownCategories.contains (Text.lower category) = false := by
      rw [← Bool.not_eq_true, List.contains_iff_mem]
      exact hknown
    simp only [Value.text?, Option.filter_some, hunknown, Bool.false_eq_true, if_false]
    unfold admission
    rw [if_pos hauthenticated, h.resolve_left hknown]

/-- The name of a category that passes is not empty. -/
theorem ne_empty_of_admits {listed : Value}
    (hlisted : AllowList.ofValue listed = .ok service.allowed) {category : String}
    (h : service.Admits category) : category ≠ "" := by
  rcases h with hknown | hname
  · rw [Ne, ← Text.lower_eq_empty_iff]
    exact (isLowered_of_mem_knownCategories hlisted hknown).2
  · exact (ResourceName.isSegment_of_check hname).1.1

/-! ## Which segments name a resource -/

/-- The segments that name a secret: its lower case, and its category unless that has a colon. -/
def NamesSecret (service : Service) (name segment : String) : Prop :=
  segment = Text.lower name ∨
    (segment = service.categoryOf name ∧ ':' ∉ (service.categoryOf name).toList)

/-- The segment that names a category: its lower case, unless it has a colon. -/
def NamesCategory (category segment : String) : Prop :=
  segment = Text.lower category ∧ ':' ∉ category.toList

/-- A secret is named by its own lower case, and by its category unless that has a colon. -/
theorem names_secret_iff {listed : Value}
    (hlisted : AllowList.ofValue listed = .ok service.allowed) {name : String}
    (hname : ResourceName.check (.text name) = .ok name) {y : String} :
    Scope.IsSegment y ∧ Scope.names y ⟨action, service.categoryOf name, some name⟩ = true ↔
      service.NamesSecret name y := by
  obtain ⟨hlow, hne⟩ :=
    isLowered_of_mem_knownCategories hlisted (service.categoryOf_mem_knownCategories name)
  unfold Scope.names NamesSecret
  rw [Bool.or_eq_true, decide_eq_true_eq, decide_eq_true_eq, hlow, Option.map_some,
    Option.some.injEq]
  constructor
  · rintro ⟨hsegment, rfl | rfl⟩
    · exact Or.inr ⟨rfl, hsegment.2⟩
    · exact Or.inl rfl
  · rintro (rfl | ⟨rfl, hcolon⟩)
    · exact ⟨(ResourceName.isSegment_of_check hname).2, Or.inr rfl⟩
    · exact ⟨⟨hne, hcolon⟩, Or.inl rfl⟩

/-- A category is named by its own lower case, unless it has a colon. -/
theorem names_category_iff {category : String} (hne : category ≠ "") {y : String} :
    Scope.IsSegment y ∧ Scope.names y ⟨action, category, none⟩ = true ↔
      NamesCategory category y := by
  unfold Scope.names NamesCategory
  rw [Bool.or_eq_true, decide_eq_true_eq, decide_eq_true_eq, Option.map_none]
  constructor
  · rintro ⟨hsegment, rfl | h⟩
    · refine ⟨rfl, ?_⟩
      rw [← Text.colon_mem_lower_iff]
      exact hsegment.2
    · cases h
  · rintro ⟨rfl, hcolon⟩
    refine ⟨⟨?_, ?_⟩, Or.inl rfl⟩
    · rw [Ne, Text.lower_eq_empty_iff]
      exact hne
    · rw [Text.colon_mem_lower_iff]
      exact hcolon

/-! ## Decisions by permissions -/

/-- Permissions grant access to a secret if the scope of one covers the request. -/
theorem isAuthorized_permit_iff {name : String} :
    (service.permit principal action name).1.isAuthorized = true ↔
      (Scope.firstCovering (Scope.ofValues service.knownCategories principal.permissions).1
        ⟨action, service.categoryOf name, some name⟩).isSome = true := by
  unfold permit
  dsimp only
  split
  · rename_i hcovering
    rw [hcovering]
    exact iff_of_true rfl rfl
  · rename_i hcovering
    rw [hcovering]
    exact iff_of_false Bool.false_ne_true Bool.false_ne_true

/-- Permissions grant access to a category if the scope of one covers the request. -/
theorem isAuthorized_permitCategory_iff {category : String} :
    (service.permitCategory principal action category).1.isAuthorized = true ↔
      (Scope.firstCovering (Scope.ofValues service.knownCategories principal.permissions).1
        ⟨action, category, none⟩).isSome = true := by
  unfold permitCategory
  dsimp only
  split
  · rename_i hcovering
    rw [hcovering]
    exact iff_of_true rfl rfl
  · rename_i hcovering
    rw [hcovering]
    exact iff_of_false Bool.false_ne_true Bool.false_ne_true

/-- What names a secret is a segment. -/
theorem isSegment_of_namesSecret {listed : Value}
    (hlisted : AllowList.ofValue listed = .ok service.allowed) {name : String}
    (hname : ResourceName.check (.text name) = .ok name) {y : String}
    (h : service.NamesSecret name y) : Scope.IsSegment y :=
  ((@names_secret_iff service .read _ hlisted _ hname _).mpr h).1

/-- What names a category is a segment. -/
theorem isSegment_of_namesCategory {category : String} (hne : category ≠ "") {y : String}
    (h : NamesCategory category y) : Scope.IsSegment y :=
  ((@names_category_iff .read _ hne _).mpr h).1

/-- An authenticated principal without grant is answered, and is granted access to a secret if and
only if it may access it by its permissions. -/
theorem authorize_answers {listed : Value}
    (hlisted : AllowList.ofValue listed = .ok service.allowed)
    (hauthenticated : principal.authenticated = true) (hgrant : principal.grant = none)
    (clock : Number) (tracker : Tracker) {name : String}
    (hname : ResourceName.check (.text name) = .ok name) :
    ∃ decision, (service.authorize clock tracker principal (.text name) action).result =
        .ok decision ∧
      (decision.isAuthorized = true ↔ principal.MayAccess action (service.NamesSecret name)) := by
  have hadmitted : admission principal (.text name) = .ok name := by
    unfold admission
    rw [if_pos hauthenticated, hname]
  refine ⟨(service.permit principal action name).1, ?_, ?_⟩
  · rw [authorize_of_no_grant hadmitted hgrant]
    rfl
  · rw [isAuthorized_permit_iff, Scope.firstCovering_isSome_iff]
    unfold Principal.MayAccess
    simp only [names_secret_iff hlisted hname]

/-- An authenticated principal without grant is answered, and is granted access to a category if and
only if it may access it by its permissions. -/
theorem authorizeCategory_answers {listed : Value}
    (hlisted : AllowList.ofValue listed = .ok service.allowed)
    (hauthenticated : principal.authenticated = true) (hgrant : principal.grant = none)
    (clock : Number) (tracker : Tracker) {category : String} (hadmits : service.Admits category) :
    ∃ decision, (service.authorizeCategory clock tracker principal (.text category) action).result =
        .ok decision ∧
      (decision.isAuthorized = true ↔ principal.MayAccess action (NamesCategory category)) := by
  have hadmitted := categoryAdmission_of_admits hauthenticated hadmits
  refine ⟨(service.permitCategory principal action category).1, ?_, ?_⟩
  · rw [authorizeCategory_of_no_grant hadmitted hgrant]
    rfl
  · rw [isAuthorized_permitCategory_iff, Scope.firstCovering_isSome_iff]
    unfold Principal.MayAccess
    simp only [names_category_iff (ne_empty_of_admits hlisted hadmits)]

/-- **Ordinary access, exactly.** An authenticated principal without grant is answered. It has
access to a secret if and only if some permission is, in any letter case, for the action on
everything, on the name of the secret, or on its category if that has no colon; and to a category
whose name passes likewise. Another service and another principal, whose permissions differ at most
in their order, in repetitions and in entries without a scope, give the same access wherever the
secret has the same category, and to every category whose name passes with both. -/
theorem ordinary_access_iff {listed : Value}
    (hlisted : AllowList.ofValue listed = .ok service.allowed)
    (hauthenticated : principal.authenticated = true) (hgrant : principal.grant = none)
    (clock : Number) (tracker : Tracker) (action : Action) :
    (∀ name, ResourceName.check (.text name) = .ok name →
        ∃ decision, (service.authorize clock tracker principal (.text name) action).result =
            .ok decision ∧
          (decision.isAuthorized = true ↔
            principal.MayAccess action (service.NamesSecret name))) ∧
      (∀ category, service.Admits category →
        ∃ decision,
          (service.authorizeCategory clock tracker principal (.text category) action).result =
            .ok decision ∧
          (decision.isAuthorized = true ↔ principal.MayAccess action (NamesCategory category))) ∧
      ∀ (otherListed : Value) (other : Service) (caller : Principal),
        AllowList.ofValue otherListed = .ok other.allowed → caller.authenticated = true →
        caller.grant = none → principal.SamePermissions caller →
          (∀ name, ResourceName.check (.text name) = .ok name →
            other.categoryOf name = service.categoryOf name →
            ((service.authorize clock tracker principal (.text name) action).GivesAccess ↔
              (other.authorize clock tracker caller (.text name) action).GivesAccess)) ∧
          ∀ category, service.Admits category → other.Admits category →
            ((service.authorizeCategory clock tracker principal (.text category)
                action).GivesAccess ↔
              (other.authorizeCategory clock tracker caller (.text category)
                action).GivesAccess) := by
  refine ⟨?_, ?_, ?_⟩
  · intro name hname
    exact authorize_answers hlisted hauthenticated hgrant clock tracker hname
  · intro category hadmits
    exact authorizeCategory_answers hlisted hauthenticated hgrant clock tracker hadmits
  intro otherListed other caller hother hcaller hnone hsame
  constructor
  · intro name hname hcategory
    rw [givesAccess_iff (authorize_answers hlisted hauthenticated hgrant clock tracker hname),
      givesAccess_iff (authorize_answers hother hcaller hnone clock tracker hname),
      hsame.mayAccess_iff fun _ => isSegment_of_namesSecret hlisted hname]
    unfold NamesSecret
    rw [hcategory]
  · intro category hadmits hotherAdmits
    rw [givesAccess_iff
        (authorizeCategory_answers hlisted hauthenticated hgrant clock tracker hadmits),
      givesAccess_iff
        (authorizeCategory_answers hother hcaller hnone clock tracker hotherAdmits),
      hsame.mayAccess_iff fun _ => isSegment_of_namesCategory (ne_empty_of_admits hlisted hadmits)]

/-- A permission for a category, in odd letter case, opens a secret that is listed in it. -/
theorem category_permission_opens_listed_secret :
    ∃ decision,
      (Service.authorize ⟨⟨[("oauth", ["discord-bot-token"])]⟩, .int 3600⟩ (.int 0) .empty
        ⟨Caller.unknown, [.text "secrets", .text "Secrets:READ:OAuth"], none, true⟩
        (.text "Discord-Bot-Token") .read).result = .ok decision ∧
      decision.isAuthorized = true := by
  have hlisted : AllowList.ofValue
      (.map [(.text "OAuth", .list [.text "Discord-Bot-Token"])]) =
        .ok (Service.mk ⟨[("oauth", ["discord-bot-token"])]⟩ (.int 3600)).allowed := by rfl
  have hauthenticated : (Principal.mk Caller.unknown
      [.text "secrets", .text "Secrets:READ:OAuth"] none true).authenticated = true := rfl
  have hname : ResourceName.check (.text "Discord-Bot-Token") = .ok "Discord-Bot-Token" := by rfl
  obtain ⟨decision, hresult, hiff⟩ := (ordinary_access_iff hlisted hauthenticated rfl (.int 0)
    .empty .read).1 "Discord-Bot-Token" hname
  refine ⟨decision, hresult, hiff.mpr ⟨.text "Secrets:READ:OAuth", by simp, _, rfl, Or.inr ?_⟩⟩
  exact ⟨"read", "oauth", by decide +kernel, Or.inr rfl,
    Or.inr (Or.inr ⟨by decide +kernel, by decide +kernel⟩)⟩

end Service

end SecretAccess
