import SecretAccess.Proofs.Service.OrdinaryAccess
import SecretAccess.Proofs.Text.FinalSigma

/-!
# Permissions for a category in any spelling

A category that is asked for is lowered by itself, and a permission as a whole, before it is cut
into segments. Behind the word of the action, which ends in a letter, the two agree but for one
spelling (`Scope.opens_permission_iff`): a category that opens with a capital sigma which nothing
cased follows ends up with the final form of the small sigma in a permission, and with the other
form in a request.

So **a permission for a category gives access to it and its secrets in every spelling of the
category but this one** (`Service.category_permission_gives_access_iff`). It fails for a category
that is spelled as it stands in the allow-list (`Service.capital_sigma_is_denied`).
-/

namespace SecretAccess

namespace Scope

/-! ## Permissions as they are written -/

/-- The permission for an action on the category or secret that the last segment names. -/
def permission (action : Action) (last : String) : String :=
  "secrets:" ++ action.word ++ ":" ++ last

/-- The last segment of a permission after lowering. -/
def lastLowered (last : String) : String := String.ofList (Text.lowerFrom true last.toList)

/-- The lower case of a permission ends in the lower case of its last segment behind a letter. -/
theorem lower_permission (action : Action) (last : String) :
    Text.lower (permission action last) = permission action (lastLowered last) := by
  have hfront : ∀ front : String, front = "secrets:" ++ action.word ++ ":" →
      'Σ' ∉ front.toList ∧ Text.lowerFrom false front.toList = front.toList ∧
        Text.casedAfter false front.toList = true := by
    rintro _ rfl
    cases action <;> decide +kernel
  obtain ⟨hsigma, hlowered, hcased⟩ := hfront _ rfl
  unfold permission lastLowered
  generalize "secrets:" ++ action.word ++ ":" = front at hsigma hlowered hcased ⊢
  rw [← String.toList_inj, Text.toList_lower, String.toList_append, Text.lowerFrom_append hsigma,
    hlowered, hcased, String.toList_append, String.toList_ofList]

/-- Permissions for one action differ by their last segments. -/
theorem permission_inj {action : Action} {last other : String} :
    permission action last = permission action other ↔ last = other := by
  unfold permission
  exact String.append_right_inj _

/-- A permission for one action is none for all of them. -/
theorem permission_ne_wide (action : Action) (last : String) :
    permission action last ≠ "secrets:*" ∧
      ∀ y, permission action last ≠ "secrets:" ++ "*" ++ ":" ++ y := by
  unfold permission
  simp only [ne_eq, ← String.toList_inj, String.toList_append]
  constructor
  · cases action <;> simp [Action.word]
  · intro y
    cases action <;> simp [Action.word]

/-- **What a permission for a segment opens** is what the segment names after lowering, or
everything if it is the wildcard. -/
theorem opens_permission_iff {action : Action} {named : String → Prop} {last : String} :
    Opens action named (.text (permission action last)) ↔
      lastLowered last = "*" ∨ named (lastLowered last) := by
  obtain ⟨hwide, hall⟩ := permission_ne_wide action (lastLowered last)
  constructor
  · rintro ⟨s, hs, h⟩
    cases hs
    rw [lower_permission] at h
    rcases h with h | ⟨x, y, h, rfl | rfl, hy⟩
    · exact absurd h hwide
    · exact absurd h (hall y)
    · rw [permission_inj.mp h]
      exact hy
  · intro h
    exact ⟨_, rfl, .inr ⟨action.word, lastLowered last, lower_permission action last, .inr rfl, h⟩⟩

/-! ## One spelling among all -/

/-- Whether a spelling opens with a capital sigma that nothing cased follows. -/
def HasOpeningSigma (spelling : String) : Prop := Text.OpensWithFinal spelling.toList

/-- A segment is lowered as it would be by itself, but for one kind of spelling. -/
theorem lastLowered_eq_lower_iff {spelling : String} :
    lastLowered spelling = Text.lower spelling ↔ ¬HasOpeningSigma spelling := by
  rw [← String.toList_inj, lastLowered, String.toList_ofList, Text.toList_lower]
  exact Text.lowerFrom_true_eq_iff

/-- A segment of this kind is neither the wildcard after lowering nor the name of any secret. -/
theorem lastLowered_ne_of_hasOpeningSigma {spelling : String} (h : HasOpeningSigma spelling) :
    lastLowered spelling ≠ "*" ∧
      ∀ name, ResourceName.check (.text name) = .ok name →
        lastLowered spelling ≠ Text.lower name := by
  have hfinal : 'ς' ∈ (lastLowered spelling).toList := by
    rw [lastLowered, String.toList_ofList]
    exact Text.final_mem_lowerFrom_true h
  constructor
  · intro hwild
    rw [hwild] at hfinal
    exact absurd hfinal (by decide)
  · intro name hname hsame
    rw [hsame, Text.toList_lower] at hfinal
    rcases Text.sigma_mem_of_final_mem_lowerFrom hfinal with hsigma | hsigma
    · exact absurd (ResourceName.mem_of_check hname hsigma) (by decide)
    · exact absurd (ResourceName.mem_of_check hname hsigma) (by decide)

end Scope

/-- A single permission for a segment gives access, by what its spelling names, in every spelling
but one kind. -/
theorem Principal.mayAccess_iff_of_permission {principal : Principal} {action : Action}
    {spelling : String}
    (hpermissions : principal.permissions = [.text (Scope.permission action spelling)])
    {named : String → Prop} (hnamed : named (Text.lower spelling))
    (hother : Scope.HasOpeningSigma spelling → ¬named (Scope.lastLowered spelling)) :
    principal.MayAccess action named ↔ ¬Scope.HasOpeningSigma spelling := by
  have hopens : principal.MayAccess action named ↔
      Scope.lastLowered spelling = "*" ∨ named (Scope.lastLowered spelling) := by
    unfold MayAccess
    rw [hpermissions, ← @Scope.opens_permission_iff action]
    simp only [List.mem_singleton, exists_eq_left]
  rw [hopens]
  by_cases hsigma : Scope.HasOpeningSigma spelling
  · refine iff_of_false ?_ (not_not.mpr hsigma)
    rintro (hwild | hnames)
    · exact (Scope.lastLowered_ne_of_hasOpeningSigma hsigma).1 hwild
    · exact hother hsigma hnames
  · refine iff_of_true (.inr ?_) hsigma
    rwa [Scope.lastLowered_eq_lower_iff.mpr hsigma]

namespace Service

variable {service : Service} {principal : Principal} {listed : Value} {category spelling : String}
  {action : Action}

/-- **A permission for a category in any spelling.** Let an authenticated principal without grant
have one permission, for an action on a known category, in a spelling without colon. It is answered
when it asks, in this spelling, for the category, and when it asks for any secret of the category.
It has access to all of them, unless the spelling opens with a capital sigma that nothing cased
follows; in this case it has access to none. -/
theorem category_permission_gives_access_iff
    (hlisted : AllowList.ofValue listed = .ok service.allowed)
    (hauthenticated : principal.authenticated = true) (hgrant : principal.grant = none)
    (hknown : category ∈ service.knownCategories) (hcolon : ':' ∉ spelling.toList)
    (hcategory : Text.lower spelling = category)
    (hpermissions : principal.permissions = [.text (Scope.permission action spelling)])
    (clock : Number) (tracker : Tracker) :
    (∃ decision, (service.authorizeCategory clock tracker principal (.text spelling)
        action).result = .ok decision ∧
      (decision.isAuthorized = true ↔ ¬Scope.HasOpeningSigma spelling)) ∧
    ∀ name, ResourceName.check (.text name) = .ok name → service.categoryOf name = category →
      ∃ decision, (service.authorize clock tracker principal (.text name) action).result =
          .ok decision ∧
        (decision.isAuthorized = true ↔ ¬Scope.HasOpeningSigma spelling) := by
  constructor
  · have hadmits : service.Admits spelling := .inl (hcategory ▸ hknown)
    obtain ⟨decision, hresult, hiff⟩ :=
      @authorizeCategory_answers _ _ action _ hlisted hauthenticated hgrant clock tracker _ hadmits
    refine ⟨decision, hresult, hiff.trans ?_⟩
    refine Principal.mayAccess_iff_of_permission hpermissions ⟨rfl, hcolon⟩ ?_
    rintro hsigma ⟨hsame, -⟩
    exact Scope.lastLowered_eq_lower_iff.mp hsame hsigma
  · intro name hname hof
    obtain ⟨decision, hresult, hiff⟩ :=
      @authorize_answers _ _ action _ hlisted hauthenticated hgrant clock tracker _ hname
    refine ⟨decision, hresult, hiff.trans ?_⟩
    rw [← hcategory] at hof
    refine Principal.mayAccess_iff_of_permission hpermissions (.inr ⟨hof.symm, ?_⟩) ?_
    · rwa [hof, Text.colon_mem_lower_iff]
    · rintro hsigma (hsame | ⟨hsame, -⟩)
      · exact (Scope.lastLowered_ne_of_hasOpeningSigma hsigma).2 name hname hsame
      · rw [hof] at hsame
        exact Scope.lastLowered_eq_lower_iff.mp hsame hsigma

/-- A service that lists one secret in a category whose name ends with a sigma. -/
def listingRoads : Service := ⟨⟨[("οδος", ["map-key"])]⟩, .int 3600⟩

/-- A caller with a permission for that category in capitals. -/
def readerOfRoads : Principal :=
  ⟨⟨some "u", "user"⟩, [.text (Scope.permission .read "ΟΔΟΣ")], none, true⟩

/-- A sigma that ends the name of a category is no obstacle. -/
theorem permission_in_capitals_gives_access :
    (listingRoads.authorizeCategory (.int 0) .empty readerOfRoads (.text "ΟΔΟΣ")
        .read).GivesAccess ∧
      (listingRoads.authorize (.int 0) .empty readerOfRoads (.text "Map-Key")
        .read).GivesAccess := by
  have hlisted : AllowList.ofValue (.map [(.text "Οδος", .list [.text "map-key"])]) =
      .ok listingRoads.allowed := by rfl
  have hknown : "οδος" ∈ listingRoads.knownCategories := by decide
  have hspelling : ¬Scope.HasOpeningSigma "ΟΔΟΣ" := by
    rw [← Scope.lastLowered_eq_lower_iff]
    decide +kernel
  have hcolon : ':' ∉ "ΟΔΟΣ".toList := by decide
  have hcategory : Text.lower "ΟΔΟΣ" = "οδος" := by decide +kernel
  have hpermissions : readerOfRoads.permissions = [.text (Scope.permission .read "ΟΔΟΣ")] := rfl
  obtain ⟨⟨decision, hresult, hiff⟩, hsecrets⟩ :=
    category_permission_gives_access_iff hlisted rfl rfl hknown hcolon hcategory hpermissions
      (.int 0) .empty
  obtain ⟨later, hlater, hlaterIff⟩ := hsecrets "Map-Key" (by rfl) (by decide +kernel)
  exact ⟨⟨decision, hresult, hiff.mpr hspelling⟩, ⟨later, hlater, hlaterIff.mpr hspelling⟩⟩

/-- A service that lists one secret in the category that is a capital sigma. -/
def listingSums : Service := ⟨⟨[("σ", ["total"])]⟩, .int 3600⟩

/-- A caller with a permission for that category, spelled as it stands in the allow-list. -/
def readerOfSums : Principal :=
  ⟨⟨some "u", "user"⟩, [.text (Scope.permission .read "Σ")], none, true⟩

/-- **A category that is a capital sigma is denied** to whoever has a permission for it in this
spelling, and so is its secret. -/
theorem capital_sigma_is_denied :
    AllowList.ofValue (.map [(.text "Σ", .list [.text "total"])]) = .ok listingSums.allowed ∧
      "σ" ∈ listingSums.knownCategories ∧ Text.lower "Σ" = "σ" ∧
      listingSums.categoryOf "total" = "σ" ∧
      ¬(listingSums.authorizeCategory (.int 0) .empty readerOfSums (.text "Σ")
        .read).GivesAccess ∧
      ¬(listingSums.authorize (.int 0) .empty readerOfSums (.text "total") .read).GivesAccess := by
  have hdenied : ∀ step : Step Decision,
      step.result.toOption.map (·.isAuthorized) = some false → ¬step.GivesAccess := by
    rintro step hstep ⟨decision, hresult, hyes⟩
    rw [hresult] at hstep
    cases hyes.symm.trans (Option.some.inj hstep)
  refine ⟨by rfl, by decide, by decide +kernel, by decide +kernel, hdenied _ ?_, hdenied _ ?_⟩
  · decide +kernel
  · decide +kernel

end Service

end SecretAccess
