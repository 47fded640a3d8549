import SecretAccess.Proofs.Failure
import SecretAccess.Settings.Environment

/-!
# Settings are given or refused

The environment of a process is free text, and reading it can fail. What goes wrong there is always
a refused configuration (`Environment.failsByConfig_settings`): no variable holds anything but a
text, so whatever comes to the checks is a number where it has to be one and has a text where it is
shown (`Environment.isCheckable_of_draft`), and is refused at most.
-/

namespace SecretAccess

/-! ## Drafts -/

namespace Draft

/-- Whether the settings of a draft that have to be numbers are, and the format can be shown. -/
structure IsCheckable (draft : Draft) : Prop where
  /-- The longest remaining lifetime of an emergency grant. -/
  longestGrant : draft.longestGrant.number?.isSome = true
  /-- The least time that a nonce stays recorded. -/
  nonceRetention : draft.nonceRetention.number?.isSome = true
  /-- How long a call to the store may take. -/
  storeTimeout : draft.storeTimeout.number?.isSome = true
  /-- The format of the journal. -/
  journalFormat : ∃ shown, draft.journalFormat.display = .ok shown

/-- A number is refused only for being zero or less. -/
theorem failsByConfig_positiveOf (setting : String) {v : Value} (h : v.number?.isSome = true) :
    FailsByConfig (positiveOf setting v) := by
  obtain ⟨n, hn⟩ := Option.isSome_iff_exists.mp h
  unfold positiveOf
  rw [hn]
  dsimp only
  split
  · exact .config _
  · exact .ok _

/-- A format that can be shown is refused if it is not known. -/
theorem failsByConfig_formatOf {v : Value} (h : ∃ shown, v.display = .ok shown) :
    FailsByConfig (formatOf v) := by
  obtain ⟨shown, hshown⟩ := h
  unfold formatOf
  split
  · exact .ok _
  · rw [bind_of_eq_ok hshown]
    exact .config _

/-- **A draft that can be checked** gives settings or is refused. -/
theorem failsByConfig_check {draft : Draft} (h : draft.IsCheckable) : FailsByConfig draft.check :=
  .bind (failsByConfig_positiveOf _ h.longestGrant) fun _ _ =>
    .bind (failsByConfig_positiveOf _ h.nonceRetention) fun _ _ =>
      .bind (failsByConfig_positiveOf _ h.storeTimeout) fun _ _ =>
        .bind (failsByConfig_formatOf h.journalFormat) fun _ _ => .ok _

end Draft

/-! ## Environments -/

namespace Environment

/-- Whether reading a variable gives a number or fails by a refused configuration. -/
structure GivesNumber (result : Except Fault Value) : Prop where
  /-- Nothing but a refused configuration goes wrong. -/
  failsByConfig : FailsByConfig result
  /-- A value that is read is a number. -/
  isNumber : ∀ v, result = .ok v → v.number?.isSome = true

namespace GivesNumber

/-- A number is given. -/
theorem ok {v : Value} (h : v.number?.isSome = true) : GivesNumber (.ok v) := by
  refine ⟨.ok v, ?_⟩
  rintro other ⟨⟩
  exact h

/-- A refused configuration gives no value. -/
theorem config (cause : ConfigFault) : GivesNumber (.error (.config cause)) :=
  ⟨.config cause, nofun⟩

end GivesNumber

variable {env : Environment} {name : String} {default : Value}

/-- A variable for a whole number gives one, or the default. -/
theorem givesNumber_int (h : default.number?.isSome = true) :
    GivesNumber (env.int name default) := by
  unfold int
  split
  · exact .ok h
  · split
    · exact .ok rfl
    · exact .config _

/-- A variable for a number of the binary format gives one, or the default. -/
theorem givesNumber_real (h : default.number?.isSome = true) :
    GivesNumber (env.real name default) := by
  unfold real
  split
  · exact .ok h
  · split
    · exact .ok rfl
    · exact .config _

/-- What an environment asks for can be told, or is refused. -/
theorem failsByConfig_draft (env : Environment) : FailsByConfig env.draft :=
  .bind (givesNumber_int rfl).failsByConfig fun _ _ =>
    .bind (givesNumber_int rfl).failsByConfig fun _ _ =>
      .bind (givesNumber_real rfl).failsByConfig fun _ _ => .ok _

/-- **What an environment asks for** can be checked. -/
theorem isCheckable_of_draft {draft : Draft} (h : env.draft = .ok draft) : draft.IsCheckable := by
  obtain ⟨longestGrant, hlongest, h⟩ := exists_of_bind_eq_ok h
  obtain ⟨nonceRetention, hretention, h⟩ := exists_of_bind_eq_ok h
  obtain ⟨storeTimeout, htimeout, h⟩ := exists_of_bind_eq_ok h
  cases h
  refine ⟨(givesNumber_int rfl).isNumber _ hlongest, (givesNumber_int rfl).isNumber _ hretention,
    (givesNumber_real rfl).isNumber _ htimeout, ?_⟩
  dsimp only
  split
  · exact ⟨_, rfl⟩
  · exact ⟨_, rfl⟩

/-- **Reading the environment** gives settings or fails by a refused configuration. -/
theorem failsByConfig_settings (env : Environment) : FailsByConfig env.settings :=
  .bind env.failsByConfig_draft fun _ h => Draft.failsByConfig_check (isCheckable_of_draft h)

end Environment

end SecretAccess
