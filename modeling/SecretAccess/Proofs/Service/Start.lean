import SecretAccess.Proofs.Settings.Variables
import SecretAccess.Proofs.Text.Lowered
import SecretAccess.Service.Basic
import SecretAccess.Table

/-!
# How the start of a process fails

A process starts from its environment, which gives settings or is refused. Setting up the journal
comes after that, and its level is looked up in a table that holds two names of other things.

* **`bootstrap_fails_by_config_iff`**: a start fails by a refused configuration or gives a service,
  exactly if the level of readable settings is none of those two names. Any other name that is not
  in the table stands for the level of ordinary information.
* **`start_with_name_of_format`**: with one of the two names the start fails otherwise.
-/

namespace SecretAccess

/-! ## Levels -/

namespace Environment

/-- The level that an environment asks for, in upper case. -/
def levelName (env : Environment) : String :=
  Text.upper ((env.value? "LOG_LEVEL").getD Draft.default.journalLevel)

/-- Raising that level again leaves it as it is. -/
theorem upper_levelName (env : Environment) : Text.upper env.levelName = env.levelName :=
  Text.upper_upper _

/-- The settings of an environment have the level that it asks for. -/
theorem journalLevel_of_settings {env : Environment} {settings : Settings}
    (h : env.settings = .ok settings) : settings.journalLevel = env.levelName :=
  (settings_eq_ok_iff.mp h).1.journalLevel.symm

end Environment

/-! ## Thresholds -/

namespace Journal

/-- The names of the level table that stand for settings of another kind. -/
def otherNames : List String := ["BASIC_FORMAT", "_STYLES"]

/-- **A name of no other setting** has a threshold, which is that of ordinary information if the
table does not have the name. -/
theorem thresholdOf_of_not_mem {name : String} (h : Text.upper name ∉ otherNames) :
    ∃ threshold, thresholdOf name = .ok threshold ∧
      (levelTable.lookup (Text.upper name) = none → threshold = Level.info.number) := by
  have hothers : ∀ entry ∈ levelTable,
      entry.2 = .messageFormat ∨ entry.2 = .messageStyles → entry.1 ∈ otherNames := by decide
  unfold thresholdOf
  rcases hlookup : levelTable.lookup (Text.upper name) with _ | stands
  · exact ⟨_, rfl, fun _ => rfl⟩
  · have hentry := Table.mem_of_lookup hlookup
    cases stands with
    | number n => exact ⟨n, rfl, nofun⟩
    | messageFormat => exact absurd (hothers _ hentry (.inl rfl)) h
    | messageStyles => exact absurd (hothers _ hentry (.inr rfl)) h

/-- The name of the format of plain messages has no threshold. -/
theorem thresholdOf_of_format {name : String} (h : Text.upper name = "BASIC_FORMAT") :
    thresholdOf name = .error .levelIsFormat := by
  unfold thresholdOf
  rw [h]
  rfl

/-- The name of the styles of message formats has no threshold. -/
theorem thresholdOf_of_styles {name : String} (h : Text.upper name = "_STYLES") :
    thresholdOf name = .error .levelIsStyles := by
  unfold thresholdOf
  rw [h]
  rfl

end Journal

/-! ## The start -/

namespace Service

open Journal

variable {env : Environment}

/-- The start of a process whose settings can be read is up to the threshold. -/
theorem bootstrap_of_settings {settings : Settings} (h : env.settings = .ok settings)
    (allowed : Option AllowList) :
    bootstrap env allowed = (thresholdOf settings.journalLevel).map fun threshold =>
      (start settings (allowed.getD .shipped) none,
        ⟨threshold, Format.ofWord settings.journalFormat.word⟩) := by
  simp only [bootstrap, Setup.ofNames, h, bind, Except.bind]
  rcases thresholdOf settings.journalLevel with fault | threshold
  · rfl
  · rfl

/-- The start of a process whose settings cannot be read fails with them. -/
theorem bootstrap_of_fault {fault : Fault} (h : env.settings = .error fault)
    (allowed : Option AllowList) : bootstrap env allowed = .error fault := by
  unfold bootstrap
  rw [h]
  rfl

/-- With the name of the format of plain messages as its level, a start fails for that. -/
theorem bootstrap_of_format {settings : Settings} (h : env.settings = .ok settings)
    (hlevel : env.levelName = "BASIC_FORMAT") (allowed : Option AllowList) :
    bootstrap env allowed = .error .levelIsFormat := by
  rw [bootstrap_of_settings h, Environment.journalLevel_of_settings h,
    thresholdOf_of_format (env.upper_levelName.trans hlevel)]
  rfl

/-- With the name of the styles of message formats as its level, a start fails for that. -/
theorem bootstrap_of_styles {settings : Settings} (h : env.settings = .ok settings)
    (hlevel : env.levelName = "_STYLES") (allowed : Option AllowList) :
    bootstrap env allowed = .error .levelIsStyles := by
  rw [bootstrap_of_settings h, Environment.journalLevel_of_settings h,
    thresholdOf_of_styles (env.upper_levelName.trans hlevel)]
  rfl

/-- **With any other level** readable settings start a service that has their longest lifetime. -/
theorem exists_bootstrap_eq_ok {settings : Settings} (h : env.settings = .ok settings)
    (hlevel : env.levelName ∉ otherNames) (allowed : Option AllowList) :
    ∃ started setup, bootstrap env allowed = .ok (started, setup) ∧
      started.service.longestGrant = settings.longestGrant ∧
      (levelTable.lookup env.levelName = none → setup.threshold = Level.info.number) := by
  have hupper := env.upper_levelName
  rw [← hupper] at hlevel
  obtain ⟨threshold, hthreshold, hdefault⟩ := thresholdOf_of_not_mem hlevel
  rw [hupper] at hdefault
  rw [bootstrap_of_settings h, Environment.journalLevel_of_settings h, hthreshold]
  exact ⟨_, _, rfl, rfl, hdefault⟩

/-- **How a start ends.** From every environment and with every allow-list:

1. the start fails by a refused configuration, or gives a service with the longest lifetime that the
   environment asks for, exactly if the environment does not give settings whose level is one of the
   two names of other settings; with a level that the table does not have, the journal shows what is
   at least ordinary information;
2. with one of the two names it fails otherwise, each name in a way of its own. -/
theorem bootstrap_fails_by_config_iff (env : Environment) (allowed : Option AllowList) :
    (((∃ cause, env.settings = .error (.config cause) ∧
            bootstrap env allowed = .error (.config cause)) ∨
          ∃ settings started setup, env.settings = .ok settings ∧
            bootstrap env allowed = .ok (started, setup) ∧
            started.service.longestGrant = settings.longestGrant ∧
            (levelTable.lookup env.levelName = none → setup.threshold = Level.info.number)) ↔
        ¬((∃ settings, env.settings = .ok settings) ∧ env.levelName ∈ otherNames)) ∧
      ∀ settings, env.settings = .ok settings →
        (env.levelName = "BASIC_FORMAT" → bootstrap env allowed = .error .levelIsFormat) ∧
        (env.levelName = "_STYLES" → bootstrap env allowed = .error .levelIsStyles) := by
  refine ⟨⟨?_, ?_⟩, ?_⟩
  · rintro hends ⟨⟨settings, hsettings⟩, hother⟩
    rcases hends with ⟨cause, hrefused, -⟩ | ⟨_, started, setup, -, hstarted, -⟩
    · rw [hsettings] at hrefused
      cases hrefused
    · rcases List.mem_cons.mp hother with hformat | hstyles
      · rw [bootstrap_of_format hsettings hformat] at hstarted
        cases hstarted
      · rw [bootstrap_of_styles hsettings (List.mem_singleton.mp hstyles)] at hstarted
        cases hstarted
  · intro hordinary
    rcases hsettings : env.settings with fault | settings
    · obtain ⟨cause, rfl⟩ := env.failsByConfig_settings fault hsettings
      exact .inl ⟨cause, rfl, bootstrap_of_fault hsettings allowed⟩
    · -- behind the settings, the level is all that can go wrong
      have hlevel : env.levelName ∉ otherNames := fun h => hordinary ⟨⟨settings, hsettings⟩, h⟩
      obtain ⟨started, setup, hstarted⟩ := exists_bootstrap_eq_ok hsettings hlevel allowed
      exact .inr ⟨settings, started, setup, rfl, hstarted⟩
  · intro settings hsettings
    exact ⟨fun h => bootstrap_of_format hsettings h allowed,
      fun h => bootstrap_of_styles hsettings h allowed⟩

/-- **A start that fails otherwise.** The settings of an environment that names the format of plain
messages as its level are not refused, and the start fails. -/
theorem start_with_name_of_format :
    let env : Environment := [("SECRETS_AUTHZ_LOG_LEVEL", "basic_format")]
    (∃ settings, env.settings = .ok settings) ∧
      bootstrap env none = .error .levelIsFormat ∧
      ¬∃ cause, bootstrap env none = .error (.config cause) := by
  intro env
  have hlevel : env.levelName = "BASIC_FORMAT" := by decide +kernel
  have hread : env.settings.toOption.isSome = true := by decide +kernel
  obtain ⟨settings, hsettings⟩ : ∃ settings, env.settings = .ok settings := by
    rcases hsettings : env.settings with fault | settings
    · rw [hsettings] at hread
      cases hread
    · exact ⟨settings, rfl⟩
  have hstart := bootstrap_of_format hsettings hlevel none
  refine ⟨⟨settings, hsettings⟩, hstart, ?_⟩
  rintro ⟨cause, hcause⟩
  rw [hstart] at hcause
  cases hcause

end Service

end SecretAccess
