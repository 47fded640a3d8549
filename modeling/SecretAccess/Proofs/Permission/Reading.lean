import SecretAccess.Proofs.Failure
import SecretAccess.Proofs.Permission.Grammar

/-!
# Reading permissions

What one permission is read as, and what all permissions of a caller are.
-/

namespace SecretAccess.Scope

/-!
## The canonical form of permissions

The permission that a scope is printed as is the canonical form of every permission for it. By
`Scope.ofText?_eq_some_iff` a text has a scope exactly if its lower case is the printed form of that
scope, and the scope is well formed for the known categories. From this

* **`permission_reads_as_its_canonical_form`**: a text without a scope is the canonical form of none
  in lower case, no text has two scopes, and the canonical form of a permission that is read has the
  same scope;
* `Scope.ofValueAmong?_eq`: known categories that come in as a value make no difference, though they
  are looked at only where the last segment names a category or a secret.
-/

/-! ### Known categories from outside -/

/-- The two widest kinds of scope are well formed whatever categories are known. -/
theorem WellFormed.of_wide {known others : List String} {scope : Scope}
    (h : scope.WellFormed known) (hwide : scope.kind = .everything ∨ scope.kind = .everySecret) :
    scope.WellFormed others := by
  obtain ⟨kind, action, value⟩ := scope
  rcases hwide with hkind | hkind
  · cases hkind
    exact h
  · cases hkind
    exact h

/-- With no categories known, whatever is printed as the scope of a category or a secret is the
scope of a secret. -/
theorem WellFormed.oneSecret {known : List String} {scope : Scope} (h : scope.WellFormed known)
    (hnarrow : scope.kind = .category ∨ scope.kind = .oneSecret) :
    (Scope.mk .oneSecret scope.action scope.value).WellFormed [] ∧
      (Scope.mk .oneSecret scope.action scope.value).printed = scope.printed := by
  obtain ⟨kind, action, value⟩ := scope
  rcases hnarrow with hkind | hkind
  · cases hkind
    exact ⟨⟨h.1, h.2.1, List.not_mem_nil⟩, rfl⟩
  · cases hkind
    exact ⟨⟨h.1, h.2.1, List.not_mem_nil⟩, rfl⟩

/-- A scope is of one of the two widest kinds, or for a category or a secret. -/
theorem isWide_or_isNarrow (scope : Scope) :
    (scope.kind = .everything ∨ scope.kind = .everySecret) ∨
      scope.kind = .category ∨ scope.kind = .oneSecret := by
  cases scope.kind <;> decide

/-- A permission that is not for a secret while no categories are known has the same scope whatever
categories are known. -/
theorem ofText?_of_not_oneSecret {s : String}
    (h : ∀ action value, ofText? [] s ≠ some ⟨.oneSecret, action, value⟩) (known : List String) :
    ofText? known s = ofText? [] s := by
  apply Option.ext
  intro scope
  rw [ofText?_eq_some_iff, ofText?_eq_some_iff]
  apply and_congr_right
  intro hprinted
  have hwide : ∀ {others}, scope.WellFormed others →
      scope.kind = .everything ∨ scope.kind = .everySecret := by
    intro others hformed
    rcases scope.isWide_or_isNarrow with hkind | hkind
    · exact hkind
    · obtain ⟨hsecret, hsame⟩ := hformed.oneSecret hkind
      exact absurd (ofText?_eq_some_iff.mpr ⟨hprinted.trans hsame.symm, hsecret⟩) (h _ _)
  exact ⟨fun hformed => hformed.of_wide (hwide hformed),
    fun hformed => hformed.of_wide (hwide hformed)⟩

/-- **Known categories from outside** make no difference to the scope of a permission text. -/
theorem ofValueAmong?_eq {listed : Value} {known : List String}
    (h : categoriesOf listed = .ok known) (s : String) :
    ofValueAmong? listed (.text s) = .ok (ofValue? known (.text s)) := by
  unfold ofValueAmong?
  rw [ofValue?_text, ofValue?_text]
  split
  · rw [h]
    rfl
  · rename_i hother
    rw [ofText?_of_not_oneSecret hother known]

/-! ### Canonical forms -/

/-- **A permission is read as its canonical form.** For any known categories and any text:

1. the text has a scope exactly if its lower case is the printed form of that scope and the scope is
   well formed;
2. it has none exactly if its lower case is the printed form of no well-formed scope;
3. two well-formed scopes that are printed as its lower case are the same;
4. the printed form of its scope has that scope again;
5. the scope is the same where the known categories come in as a value. -/
theorem permission_reads_as_its_canonical_form (known : List String) (s : String) :
    (∀ scope, ofValue? known (.text s) = some scope ↔
        Text.lower s = scope.printed ∧ scope.WellFormed known) ∧
      (ofValue? known (.text s) = none ↔
        ∀ scope : Scope, scope.WellFormed known → Text.lower s ≠ scope.printed) ∧
      (∀ first second : Scope, first.WellFormed known → second.WellFormed known →
        Text.lower s = first.printed → Text.lower s = second.printed → first = second) ∧
      (∀ scope, ofValue? known (.text s) = some scope →
        ofValue? known (.text scope.printed) = some scope) ∧
      ∀ listed, categoriesOf listed = .ok known →
        ofValueAmong? listed (.text s) = .ok (ofValue? known (.text s)) := by
  simp only [ofValue?_text]
  have hread := fun scope => @ofText?_eq_some_iff known s scope
  refine ⟨hread, ?_, ?_, ?_, ?_⟩
  · rw [Option.eq_none_iff_forall_ne_some]
    constructor
    · intro hnone scope hformed hprinted
      exact hnone scope ((hread scope).mpr ⟨hprinted, hformed⟩)
    · intro hno scope hscope
      obtain ⟨hprinted, hformed⟩ := (hread scope).mp hscope
      exact hno scope hformed hprinted
  · intro first second hfirst hsecond hone hother
    have hscope := (hread first).mpr ⟨hone, hfirst⟩
    rw [(hread second).mpr ⟨hother, hsecond⟩, Option.some.injEq] at hscope
    exact hscope.symm
  · intro scope hscope
    obtain ⟨hprinted, hformed⟩ := (hread scope).mp hscope
    refine ofText?_eq_some_iff.mpr ⟨?_, hformed⟩
    rw [← hprinted, Text.lower_lower]
  · intro listed hlisted
    rw [← ofValue?_text]
    exact ofValueAmong?_eq hlisted s

/-!
## The permissions of a caller are read one by one

All permissions of a caller are read with the known categories brought to lower case beforehand, and
reading a single permission lowers them again. Lower-casing is idempotent, so this comes to the
same: **known categories count up to letter case, order and repetition** (`Scope.ofValue?_congr`),
and reading all permissions is reading each of them (`Scope.ofValues_eq`).

A permission adds either its scope or a report that it has none (`Scope.ofValues_cons_of_scope`,
`Scope.ofValues_cons_of_none`), so by induction every permission leaves one trace
(`Scope.length_ofValues`). **`permissions_read_one_by_one`** puts this together.
-/

variable {known others : List String}

/-! ### Known categories in any letter case -/

/-- Categories that agree in lower case make the same scopes well formed. -/
theorem WellFormed.congr (h : ∀ c, c ∈ known.map Text.lower ↔ c ∈ others.map Text.lower)
    {scope : Scope} : scope.WellFormed known ↔ scope.WellFormed others := by
  unfold WellFormed
  cases scope.kind
  case everything => exact Iff.rfl
  case everySecret => exact Iff.rfl
  case category => simp only [h]
  case oneSecret => simp only [h]

/-- Categories that agree in lower case give permission texts the same scopes. -/
theorem ofText?_congr (h : ∀ c, c ∈ known.map Text.lower ↔ c ∈ others.map Text.lower) :
    ofText? known = ofText? others := by
  funext s
  apply Option.ext
  intro scope
  rw [ofText?_eq_some_iff, ofText?_eq_some_iff]
  exact and_congr_right fun _ => WellFormed.congr h

/-- **Known categories** count up to letter case, order and repetition. -/
theorem ofValue?_congr (h : ∀ c, c ∈ known.map Text.lower ↔ c ∈ others.map Text.lower) :
    ofValue? known = ofValue? others := by
  funext v
  unfold ofValue?
  rw [ofText?_congr h]

/-- Known categories in lower case do the same as the categories themselves. -/
theorem ofValue?_lowered (known : List String) :
    ofValue? (known.map Text.lower) = ofValue? known := by
  have hlower : Text.lower ∘ Text.lower = Text.lower := funext Text.lower_lower
  apply ofValue?_congr
  intro c
  rw [List.map_map, hlower]

/-- What is no text has no scope. -/
theorem ofValue?_of_no_text {v : Value} (h : v.text? = none) (known : List String) :
    ofValue? known v = none := by
  unfold ofValue?
  rw [h]
  rfl

/-- Known categories that come in as a value make no difference to any permission. -/
theorem ofValueAmong?_eq_ofValue? {listed : Value} (h : categoriesOf listed = .ok known)
    (permission : Value) :
    ofValueAmong? listed permission = .ok (ofValue? known permission) := by
  cases permission with
  | text s => exact ofValueAmong?_eq h s
  | _ => rw [ofValueAmong?, ofValue?_of_no_text rfl, ofValue?_of_no_text rfl]

/-! ### All permissions -/

/-- Reading all permissions is reading each of them. -/
theorem ofValues_eq (known : List String) (permissions : List Value) :
    ofValues known permissions =
      (permissions.filterMap (ofValue? known),
       (permissions.filter fun p => (ofValue? known p).isNone).map ignoredEntry) := by
  -- behind the lowered categories, each single permission is read among them as they are
  rw [ofValues_eq_passes, ofValue?_lowered known]

section Step

variable {permission : Value}

/-- A permission with a scope adds this scope and no report. -/
theorem ofValues_cons_of_scope {scope : Scope} (h : ofValue? known permission = some scope)
    (rest : List Value) :
    ofValues known (permission :: rest) =
      (scope :: (ofValues known rest).1, (ofValues known rest).2) := by
  rw [ofValues_eq, ofValues_eq, List.filterMap_cons_some h, List.filter_cons_of_neg]
  simp [h]

/-- A permission without a scope adds a report about it and no scope. -/
theorem ofValues_cons_of_none (h : ofValue? known permission = none) (rest : List Value) :
    ofValues known (permission :: rest) =
      ((ofValues known rest).1, ignoredEntry permission :: (ofValues known rest).2) := by
  rw [ofValues_eq, ofValues_eq, List.filterMap_cons_none h, List.filter_cons_of_pos, List.map_cons]
  simp [h]

end Step

/-- There are as many scopes and reports together as permissions. -/
theorem length_ofValues (known : List String) (permissions : List Value) :
    (ofValues known permissions).1.length + (ofValues known permissions).2.length =
      permissions.length := by
  induction permissions with
  | nil => rfl
  | cons permission rest ih =>
    cases hscope : ofValue? known permission with
    | none =>
      rw [ofValues_cons_of_none hscope, List.length_cons, List.length_cons, ← ih, Nat.add_assoc]
    | some scope =>
      rw [ofValues_cons_of_scope hscope, List.length_cons, List.length_cons, ← ih,
        Nat.add_right_comm]

/-- **Permissions are read one by one.** For any known categories, in any letter case, and any
values as permissions:

1. the scopes are those of the single permissions in their order, with nothing for those that have
   none;
2. the reports are about the permissions that have no scope, in their order, one on the debug level
   for each, and each shows its permission;
3. there are as many scopes and reports together as permissions;
4. where the known categories come in as a value, each permission can be read by itself among them,
   and has the same scope. -/
theorem permissions_read_one_by_one (known : List String) (permissions : List Value) :
    (ofValues known permissions).1 = permissions.filterMap (ofValue? known) ∧
      (ofValues known permissions).2 =
        (permissions.filter fun p => (ofValue? known p).isNone).map (fun p =>
          ⟨.debug, "policy", "permission_ignored", [("permission", p)]⟩) ∧
      (ofValues known permissions).1.length + (ofValues known permissions).2.length =
        permissions.length ∧
      ∀ listed, categoriesOf listed = .ok known →
        permissions.mapM (ofValueAmong? listed) = .ok (permissions.map (ofValue? known)) := by
  refine ⟨?_, ?_, length_ofValues known permissions, ?_⟩
  · rw [ofValues_eq]
  · rw [ofValues_eq]
    rfl
  · intro listed hlisted
    exact mapM_eq_ok_map fun permission _ => ofValueAmong?_eq_ofValue? hlisted permission

/-- A category that is known in capitals, a permission for it in another spelling, a value that is
no permission, and a permission for everything. -/
theorem mixed_permissions_read :
    categoriesOf (.list [.text "OAuth"]) = .ok ["OAuth"] ∧
      ofValues ["OAuth"] [.text "Secrets:Read:OAUTH", .null, .text "secrets:*"] =
        ([⟨.category, some .read, "oauth"⟩, ⟨.everything, none, ""⟩],
         [⟨.debug, "policy", "permission_ignored", [("permission", .null)]⟩]) ∧
      [.text "Secrets:Read:OAUTH", .null, .text "secrets:*"].mapM
          (ofValueAmong? (.list [.text "OAuth"])) =
        .ok [some ⟨.category, some .read, "oauth"⟩, none, some ⟨.everything, none, ""⟩] := by
  have hlisted : categoriesOf (.list [.text "OAuth"]) = .ok ["OAuth"] := rfl
  have hcategory : ofValue? ["OAuth"] (.text "Secrets:Read:OAUTH") =
      some ⟨.category, some .read, "oauth"⟩ := by decide +kernel
  have hnull : ofValue? ["OAuth"] .null = none := rfl
  have hwide : ofValue? ["OAuth"] (.text "secrets:*") = some ⟨.everything, none, ""⟩ := by
    decide +kernel
  obtain ⟨hscopes, hreports, -, hsingle⟩ := permissions_read_one_by_one ["OAuth"]
    [.text "Secrets:Read:OAUTH", .null, .text "secrets:*"]
  refine ⟨hlisted, Prod.ext ?_ ?_, ?_⟩
  · rw [hscopes]
    simp [hcategory, hnull, hwide]
  · rw [hreports]
    simp [hcategory, hnull, hwide]
  · rw [hsingle _ hlisted]
    simp [hcategory, hnull, hwide]

end SecretAccess.Scope
