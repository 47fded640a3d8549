import SecretAccess.Proofs.Service.Exits

/-!
# Access to a category covers its secrets

The category that is asked for and the category of a secret come about on different ways: the one is
lowered when the request is made, the other was stripped and lowered when the allow-list was read,
or is built in. They meet because **the category of every secret is known, and lowering leaves it as
it is** (`Service.lower_categoryOf`).

* `category_access_covers_its_secrets`, first part: whoever has access to a category by permissions
  has access to each of its secrets, for the same action, at any other clock reading and tracker.
* Second part: a request for the category of a secret is never refused for its name, whoever asks.

The first part rests on the exact conditions of ordinary access: a segment that names a category
names all of its secrets (`Service.namesSecret_of_namesCategory`), and where more segments name a
resource, more permissions open it (`Principal.MayAccess.mono`).
-/

namespace SecretAccess

/-! ## More names, more access -/

/-- A permission that opens what some segments name opens what more segments name. -/
theorem Scope.Opens.mono {action : Action} {named wider : String → Prop}
    (h : ∀ y, named y → wider y) {permission : Value} (hopens : Opens action named permission) :
    Opens action wider permission := by
  obtain ⟨s, hs, heverything | ⟨x, y, hprinted, hx, hy⟩⟩ := hopens
  · exact ⟨s, hs, Or.inl heverything⟩
  · exact ⟨s, hs, Or.inr ⟨x, y, hprinted, hx, hy.imp_right (h y)⟩⟩

/-- Where more segments name a resource, no access is lost. -/
theorem Principal.MayAccess.mono {principal : Principal} {action : Action}
    {named wider : String → Prop} (h : ∀ y, named y → wider y)
    (haccess : principal.MayAccess action named) : principal.MayAccess action wider := by
  obtain ⟨permission, hmem, hopens⟩ := haccess
  exact ⟨permission, hmem, hopens.mono h⟩

namespace Service

section cover

variable {service : Service} {principal : Principal} {action : Action} {clock : Number}
  {tracker : Tracker} {listed : Value}

/-! ## The category of a secret -/

/-- Lowering leaves the category of a secret as it is. -/
theorem lower_categoryOf (hlisted : AllowList.ofValue listed = .ok service.allowed)
    (secret : String) : Text.lower (service.categoryOf secret) = service.categoryOf secret :=
  (isLowered_of_mem_knownCategories hlisted (service.categoryOf_mem_knownCategories secret)).1

/-- The segment that names a category names each of its secrets. -/
theorem namesSecret_of_namesCategory {secret category : String}
    (hcategory : service.categoryOf secret = Text.lower category) {y : String}
    (h : NamesCategory category y) : service.NamesSecret secret y := by
  obtain ⟨rfl, hcolon⟩ := h
  right
  rw [hcategory, Text.colon_mem_lower_iff]
  exact ⟨rfl, hcolon⟩

/-! ## Requests for a category -/

/-- Only an authenticated principal has access to a category, and only to one whose name passes. -/
theorem admits_of_givesAccess {name : Value}
    (h : (service.authorizeCategory clock tracker principal name action).GivesAccess) :
    ∃ category, principal.authenticated = true ∧ name = .text category ∧
      service.Admits category := by
  rcases hadmission : service.categoryAdmission principal name with denial | category
  · obtain ⟨decision, hresult, hauthorized⟩ := h
    obtain ⟨caller, code, reason, rfl⟩ := eq_deny_of_categoryAdmission_eq_error hadmission
    rw [authorizeCategory_of_refused hadmission] at hresult
    cases hresult
    cases hauthorized
  · exact ⟨category, admits_of_categoryAdmission_eq_ok hadmission⟩

/-- A request for a known category is not refused for its name. -/
theorem code?_ne_invalidResourceName {category : String}
    (hknown : Text.lower category ∈ service.knownCategories) {decision : Decision}
    (h : (service.authorizeCategory clock tracker principal (.text category) action).result =
      .ok decision) :
    decision.code? ≠ some .invalidResourceName := by
  by_cases hauthenticated : principal.authenticated = true
  · have hadmission := categoryAdmission_of_admits hauthenticated (Or.inl hknown)
    exact (ruling_of_authorizeCategory hadmission h).code?_ne_invalidResourceName
  · have hunknown := (exit_of_authorizeCategory h).fits.unauthenticated.mpr
      (Bool.eq_false_iff.mpr hauthenticated)
    rw [hunknown]
    nofun

/-- A principal without grant is answered about every category. -/
theorem exists_answer_of_no_grant (hgrant : principal.grant = none) (service : Service)
    (clock : Number) (tracker : Tracker) (name : Value) (action : Action) :
    ∃ decision, (service.authorizeCategory clock tracker principal name action).result =
      .ok decision := by
  rcases hadmission : service.categoryAdmission principal name with denial | category
  · rw [authorizeCategory_of_refused hadmission]
    exact ⟨denial, rfl⟩
  · rw [authorizeCategory_of_no_grant hadmission hgrant]
    exact ⟨_, rfl⟩

/-- **Access to a category covers its secrets.** Let the allow-list of a service be read from an
external value, and let a principal present no grant.

1. If the principal has access to a category, by whatever value it asks for it, then that value is a
   text, and at every clock reading and with every tracker it has access, for the same action, to
   every secret whose category is the lower case of that text.
2. The category of any text is one that the service knows, and is its own lower case. A request for
   it by the principal is answered; and no such request, by whomever, is denied for an invalid name.
   -/
theorem category_access_covers_its_secrets
    (hlisted : AllowList.ofValue listed = .ok service.allowed) (hgrant : principal.grant = none)
    (action : Action) :
    (∀ clock tracker name,
        (service.authorizeCategory clock tracker principal name action).GivesAccess →
        ∃ category, name = .text category ∧
          ∀ clock tracker secret, ResourceName.check (.text secret) = .ok secret →
            service.categoryOf secret = Text.lower category →
            (service.authorize clock tracker principal (.text secret) action).GivesAccess) ∧
      ∀ secret : String,
        service.categoryOf secret ∈ service.knownCategories ∧
        Text.lower (service.categoryOf secret) = service.categoryOf secret ∧
        (∀ clock tracker, ∃ decision,
          (service.authorizeCategory clock tracker principal (.text (service.categoryOf secret))
            action).result = .ok decision) ∧
        ∀ clock tracker caller decision,
          (service.authorizeCategory clock tracker caller (.text (service.categoryOf secret))
            action).result = .ok decision →
          decision.code? ≠ some .invalidResourceName := by
  constructor
  · intro clock tracker name haccess
    obtain ⟨category, hauthenticated, rfl, hadmits⟩ := admits_of_givesAccess haccess
    have hmay := (givesAccess_iff
      (authorizeCategory_answers hlisted hauthenticated hgrant clock tracker hadmits)).mp haccess
    refine ⟨category, rfl, ?_⟩
    intro later after secret hsecret hcategory
    rw [givesAccess_iff (authorize_answers hlisted hauthenticated hgrant later after hsecret)]
    exact hmay.mono fun y => namesSecret_of_namesCategory hcategory
  · intro secret
    have hknown := service.categoryOf_mem_knownCategories secret
    have hlowered := lower_categoryOf hlisted secret
    refine ⟨hknown, hlowered, ?_, ?_⟩
    · intro clock tracker
      exact exists_answer_of_no_grant hgrant service clock tracker _ action
    · intro clock tracker caller decision hresult
      rw [← hlowered] at hknown
      exact code?_ne_invalidResourceName hknown hresult

end cover

/-- A service that lists one secret. -/
def listingOne : Service := ⟨⟨[("oauth", ["discord-bot-token"])]⟩, .int 3600⟩

/-- A caller with a permission for a category. -/
def readerOfCategory : Principal := ⟨Caller.unknown, [.text "Secrets:READ:OAuth"], none, true⟩

/-- With a permission for a category there is access to the category, under whatever spelling, and
so to the secret that is listed in it. -/
theorem listed_secret_covered :
    AllowList.ofValue (.map [(.text " OAuth ", .list [.text "Discord-Bot-Token"])]) =
        .ok listingOne.allowed ∧
      (listingOne.authorizeCategory (.int 0) .empty readerOfCategory (.text "OAUTH")
        .read).GivesAccess ∧
      (listingOne.authorize (.int 1) .empty readerOfCategory (.text "Discord-Bot-Token")
        .read).GivesAccess := by
  have hlisted : AllowList.ofValue
      (.map [(.text " OAuth ", .list [.text "Discord-Bot-Token"])]) =
        .ok listingOne.allowed := by rfl
  have hgrant : readerOfCategory.grant = none := rfl
  have haccess : (listingOne.authorizeCategory (.int 0) .empty readerOfCategory (.text "OAUTH")
      .read).GivesAccess := ⟨_, rfl, by decide +kernel⟩
  have hcategory : listingOne.categoryOf "Discord-Bot-Token" = Text.lower "OAUTH" := by
    decide +kernel
  obtain ⟨category, hname, hcovers⟩ :=
    (category_access_covers_its_secrets hlisted hgrant .read).1 _ _ _ haccess
  cases hname
  exact ⟨hlisted, haccess, hcovers (.int 1) .empty _ (by rfl) hcategory⟩

end Service

end SecretAccess
