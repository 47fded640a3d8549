import SecretAccess.Proofs.Numeric.Numerals
import SecretAccess.Proofs.Settings.Refusal
import SecretAccess.Proofs.Text.Trimmed

/-!
# What the variables of a process set

Each setting has a variable of its own, and is what the text of this variable says
(`Environment.reading`). A variable that is absent or blank says nothing and leaves the default; of
any other the text without outer blanks counts (`Environment.written?_eq_some_iff`).

* **`Environment.settings_eq_ok_iff`**: an environment gives settings exactly if they are what its
  variables say, each by itself, and no number among them is zero or less.
* **`Environment.settings_are_valid_or_refused`**: so the numbers of settings are above zero, and
  everything else is refused, with one exception. The value of the binary format that stands for no
  number is neither above zero nor zero or less, and is taken as a time limit
  (`Environment.time_limit_that_is_no_number`).
-/

namespace SecretAccess

/-! ## Numbers above zero -/

namespace Number

/-- One is some units. -/
theorem unitsPerOne_pos : (0 : Int) < Binary64.unitsPerOne := by
  decide +kernel

/-- Numbers that have places are in the order of these. -/
theorem lt_eq_below {m n : Number} {p q : Place} (hm : m.place? = some p)
    (hn : n.place? = some q) : m.lt n = p.below q := by
  unfold lt
  split
  · cases hm
    cases hn
    rw [Place.below, decide_eq_decide, Int.mul_lt_mul_right unitsPerOne_pos]
  · rw [hm, hn]

/-- Numbers that have places are the same if these are. -/
theorem same_eq_decide {m n : Number} {p q : Place} (hm : m.place? = some p)
    (hn : n.place? = some q) : m.same n = decide (p = q) := by
  unfold same
  split
  · cases hm
    cases hn
    rw [decide_eq_decide, Place.at.injEq, Int.mul_eq_mul_right_iff unitsPerOne_pos.ne']
  · rw [hm, hn]

/-- Of two places that differ, one is below the other. -/
theorem Place.below_or_eq_iff {p q : Place} :
    (p.below q || decide (p = q)) = false ↔ q.below p = true := by
  cases p <;> cases q <;> simp [Place.below]
  omega

/-- Of two numbers that have places, one is below the other or at its place. -/
theorem le_eq_false_iff {m n : Number} {p q : Place} (hm : m.place? = some p)
    (hn : n.place? = some q) : m.le n = false ↔ n.lt m = true := by
  rw [le, lt_eq_below hm hn, lt_eq_below hn hm, same_eq_decide hm hn, Place.below_or_eq_iff]

/-- The one number without a place is none. -/
theorem place?_eq_none_iff {n : Number} : n.place? = none ↔ n = .real .nan := by
  unfold place?
  split
  case h_2 => exact iff_of_true rfl rfl
  all_goals exact iff_of_false nofun nofun

/-- Whether a number is above zero. -/
def IsPositive (n : Number) : Prop := (int 0).lt n = true

/-- What is not zero or less is above zero, or no number. -/
theorem le_zero_eq_false_iff {n : Number} :
    n.le (int 0) = false ↔ n.IsPositive ∨ n = .real .nan := by
  rcases hplace : n.place? with _ | place
  · rw [place?_eq_none_iff.mp hplace]
    exact iff_of_true rfl (.inr rfl)
  · rw [le_eq_false_iff hplace rfl, IsPositive, or_iff_left]
    rintro rfl
    cases hplace

end Number

/-! ## Checks -/

namespace Draft

/-- A number that is asked for passes as it is, unless it is zero or less. -/
theorem positiveOf_eq_ok_iff {setting : String} {m n : Number} :
    positiveOf setting (.ofNumber m) = .ok n ↔ n = m ∧ n.le (.int 0) = false := by
  have hnumber : (Value.ofNumber m).number? = some m := by cases m <;> rfl
  unfold positiveOf
  rw [hnumber]
  dsimp only
  by_cases hm : m.le (.int 0) = true
  · rw [if_pos hm]
    refine iff_of_false nofun ?_
    rintro ⟨rfl, hn⟩
    rw [hm] at hn
    cases hn
  · rw [if_neg hm, Except.ok.injEq]
    constructor
    · rintro rfl
      exact ⟨rfl, Bool.eq_false_iff.mpr hm⟩
    · exact fun h => h.1.symm

/-- A format that is asked for by a text is the one that the text names. -/
theorem formatOf_text_eq_ok_iff {s : String} {format : Journal.Format} :
    formatOf (.text s) = .ok format ↔ Journal.Format.ofWord? s = some format := by
  unfold formatOf
  rw [Value.text?, Option.bind_some]
  rcases Journal.Format.ofWord? s with _ | other
  · exact iff_of_false nofun nofun
  · rw [Except.ok.injEq, Option.some.injEq]

/-- The settings of a draft are what it asks for, if that passes the checks. -/
theorem check_eq_ok_iff {draft : Draft} {settings : Settings} :
    draft.check = .ok settings ↔
      positiveOf "break_glass_max_ttl_seconds" draft.longestGrant = .ok settings.longestGrant ∧
      positiveOf "nonce_retention_seconds" draft.nonceRetention = .ok settings.nonceRetention ∧
      positiveOf "nonce_store_timeout_seconds" draft.storeTimeout = .ok settings.storeTimeout ∧
      formatOf draft.journalFormat = .ok settings.journalFormat ∧
      draft.storeUrl = settings.storeUrl ∧ draft.keyStem = settings.keyStem ∧
      draft.journalLevel = settings.journalLevel := by
  unfold check
  simp only [bind_eq_ok_iff]
  constructor
  · rintro ⟨_, hlongest, _, hretention, _, htimeout, _, hformat, hsettings⟩
    cases hsettings
    exact ⟨hlongest, hretention, htimeout, hformat, rfl, rfl, rfl⟩
  · obtain ⟨longest, retention, url, timeout, stem, level, format⟩ := settings
    rintro ⟨hlongest, hretention, htimeout, hformat, rfl, rfl, rfl⟩
    exact ⟨_, hlongest, _, hretention, _, htimeout, _, hformat, rfl⟩

end Draft

namespace Environment

/-! ## Variables -/

/-- What a variable holds, if it is set. -/
def held (env : Environment) (name : String) : Option String := env.lookup (lead ++ name)

/-- The text that counts of a variable: what it holds without outer blanks, if that is anything. -/
def written? (held : Option String) : Option String := (held.map Text.strip).filter (· ≠ "")

/-- What a variable says, given how its text is read: the default if no text counts, and nothing if
the text cannot be read. -/
def reading {α : Type} (read : String → Option α) (default : α) (held : Option String) : Option α :=
  (written? held).elim (some default) read

/-- The whole number that a text is read as. -/
def whole? (s : String) : Option Number := (Numeral.int? s).map .int

/-- The number of the binary format that a text is read as. -/
def binary? (s : String) : Option Number := (Numeral.real? s).map .real

/-- The journal format that a text names, in any letter case. -/
def format? (s : String) : Option Journal.Format := Journal.Format.ofWord? (Text.lower s)

/-- The value of a variable is the text of it that counts. -/
theorem value?_eq (env : Environment) (name : String) :
    env.value? name = written? (env.held name) := rfl

/-- The text that counts of a variable is what stripping leaves, unless that is empty. -/
theorem written?_eq_some_iff_strip {held : Option String} {s : String} :
    written? held = some s ↔ ∃ raw, held = some raw ∧ Text.strip raw = s ∧ s ≠ "" := by
  rw [written?, Option.filter_eq_some_iff, Option.map_eq_some_iff, decide_eq_true_eq]
  exact ⟨fun ⟨⟨raw, hraw, hs⟩, hne⟩ => ⟨raw, hraw, hs, hne⟩,
    fun ⟨raw, hraw, hs, hne⟩ => ⟨⟨raw, hraw, hs⟩, hne⟩⟩

/-- **No text counts** of a variable that is absent or blank. -/
theorem written?_eq_none_iff {held : Option String} :
    written? held = none ↔ ∀ raw, held = some raw → Text.isBlankText raw = true := by
  rw [Option.eq_none_iff_forall_ne_some]
  simp only [ne_eq, written?_eq_some_iff_strip, not_exists, not_and, not_not]
  constructor
  · intro h raw hraw
    exact Text.strip_eq_empty_iff.mp (h _ raw hraw rfl)
  · rintro h s raw hraw rfl
    exact Text.strip_eq_empty_iff.mpr (h raw hraw)

/-- **The text that counts** of a variable is trimmed and not empty, and the variable adds outer
blanks to it at most. -/
theorem written?_eq_some_iff {held : Option String} {s : String} :
    written? held = some s ↔ s ≠ "" ∧ Text.IsTrimmed s ∧
      ∃ raw before behind, held = some raw ∧ Text.AreBlank before ∧ Text.AreBlank behind ∧
        raw.toList = before ++ s.toList ++ behind := by
  rw [written?_eq_some_iff_strip]
  simp only [Text.strip_eq_iff]
  constructor
  · rintro ⟨raw, hraw, ⟨htrimmed, before, behind, hbefore, hbehind, hs⟩, hne⟩
    exact ⟨hne, htrimmed, raw, before, behind, hraw, hbefore, hbehind, hs⟩
  · rintro ⟨hne, htrimmed, raw, before, behind, hraw, hbefore, hbehind, hs⟩
    exact ⟨raw, hraw, ⟨htrimmed, before, behind, hbefore, hbehind, hs⟩, hne⟩

variable {env : Environment} {name : String}

/-- A variable for a whole number gives the number that it says. -/
theorem int_eq_ok_iff {default : Number} {v : Value} :
    env.int name (.ofNumber default) = .ok v ↔
      ∃ n, reading whole? default (env.held name) = some n ∧ .ofNumber n = v := by
  unfold int reading whole?
  rw [value?_eq]
  rcases written? (env.held name) with _ | s
  · simp only [Option.elim_none, Option.some.injEq, exists_eq_left', Except.ok.injEq]
  · dsimp only [Option.elim_some]
    rcases Numeral.int? s with _ | i
    · exact iff_of_false nofun nofun
    · simp only [Option.map_some, Option.some.injEq, exists_eq_left', Except.ok.injEq]
      exact Iff.rfl

/-- A variable for a number of the binary format gives the number that it says. -/
theorem real_eq_ok_iff {default : Number} {v : Value} :
    env.real name (.ofNumber default) = .ok v ↔
      ∃ n, reading binary? default (env.held name) = some n ∧ .ofNumber n = v := by
  unfold real reading binary?
  rw [value?_eq]
  rcases written? (env.held name) with _ | s
  · simp only [Option.elim_none, Option.some.injEq, exists_eq_left', Except.ok.injEq]
  · dsimp only [Option.elim_some]
    rcases Numeral.real? s with _ | x
    · exact iff_of_false nofun nofun
    · simp only [Option.map_some, Option.some.injEq, exists_eq_left', Except.ok.injEq]

/-- What a variable gives passes if it is a number that passes. -/
theorem exists_positiveOf_iff {asked : Except Fault Value} {said : Option Number} {setting : String}
    (h : ∀ v, asked = .ok v ↔ ∃ n, said = some n ∧ .ofNumber n = v) {n : Number} :
    (∃ v, asked = .ok v ∧ Draft.positiveOf setting v = .ok n) ↔
      said = some n ∧ n.le (.int 0) = false := by
  simp only [h]
  constructor
  · rintro ⟨_, ⟨m, hm, rfl⟩, hn⟩
    obtain ⟨rfl, hpasses⟩ := Draft.positiveOf_eq_ok_iff.mp hn
    exact ⟨hm, hpasses⟩
  · rintro ⟨hn, hpasses⟩
    exact ⟨_, ⟨n, hn, rfl⟩, Draft.positiveOf_eq_ok_iff.mpr ⟨rfl, hpasses⟩⟩

/-- A variable for a whole number gives one that passes if it says a number that passes. -/
theorem exists_int_positiveOf_iff (env : Environment) (name setting : String) (default n : Number) :
    (∃ v, env.int name (.ofNumber default) = .ok v ∧ Draft.positiveOf setting v = .ok n) ↔
      reading whole? default (env.held name) = some n ∧ n.le (.int 0) = false :=
  exists_positiveOf_iff fun _ => int_eq_ok_iff

/-- So does a variable for a number of the binary format. -/
theorem exists_real_positiveOf_iff (env : Environment) (name setting : String)
    (default n : Number) :
    (∃ v, env.real name (.ofNumber default) = .ok v ∧ Draft.positiveOf setting v = .ok n) ↔
      reading binary? default (env.held name) = some n ∧ n.le (.int 0) = false :=
  exists_positiveOf_iff fun _ => real_eq_ok_iff

/-- A variable for the journal format gives the format that it names. -/
theorem formatOf_eq_ok_iff {format : Journal.Format} :
    Draft.formatOf (match env.value? name with
      | some written => .text (Text.lower written)
      | none => Draft.default.journalFormat) = .ok format ↔
      reading format? .json (env.held name) = some format := by
  unfold reading format?
  rw [value?_eq]
  rcases written? (env.held name) with _ | s
  · exact Draft.formatOf_text_eq_ok_iff
  · exact Draft.formatOf_text_eq_ok_iff

/-! ## Settings -/

/-- Whether settings are what the variables of an environment say, each by itself. -/
structure Says (env : Environment) (settings : Settings) : Prop where
  /-- The longest remaining lifetime of an emergency grant. -/
  longestGrant : reading whole? Draft.defaultLongestGrant
    (env.held "BREAK_GLASS_MAX_TTL_SECONDS") = some settings.longestGrant
  /-- The least time that a nonce stays recorded. -/
  nonceRetention : reading whole? Tracker.defaultRetention
    (env.held "NONCE_RETENTION_SECONDS") = some settings.nonceRetention
  /-- The address of the shared store. -/
  storeUrl : written? (env.held "NONCE_STORE_URL") = settings.storeUrl
  /-- How long a call to the store may take. -/
  storeTimeout : reading binary? Draft.defaultTimeout
    (env.held "NONCE_STORE_TIMEOUT_SECONDS") = some settings.storeTimeout
  /-- What the keys of nonces begin with. -/
  keyStem : (written? (env.held "NONCE_KEY_PREFIX")).getD Tracker.defaultKeyStem = settings.keyStem
  /-- The name of the journal's threshold. -/
  journalLevel : Text.upper ((written? (env.held "LOG_LEVEL")).getD "INFO") = settings.journalLevel
  /-- The format of the journal. -/
  journalFormat : reading format? .json (env.held "LOG_FORMAT") = some settings.journalFormat

/-- **An environment gives settings** exactly if they are what its variables say and no number is
zero or less. -/
theorem settings_eq_ok_iff {settings : Settings} :
    env.settings = .ok settings ↔ env.Says settings ∧
      settings.longestGrant.le (.int 0) = false ∧ settings.nonceRetention.le (.int 0) = false ∧
      settings.storeTimeout.le (.int 0) = false := by
  have hlongest := fun n => env.exists_int_positiveOf_iff "BREAK_GLASS_MAX_TTL_SECONDS"
    "break_glass_max_ttl_seconds" Draft.defaultLongestGrant n
  have hretention := fun n => env.exists_int_positiveOf_iff "NONCE_RETENTION_SECONDS"
    "nonce_retention_seconds" Tracker.defaultRetention n
  have htimeout := fun n => env.exists_real_positiveOf_iff "NONCE_STORE_TIMEOUT_SECONDS"
    "nonce_store_timeout_seconds" Draft.defaultTimeout n
  unfold Environment.settings Environment.draft
  simp only [bind_eq_ok_iff, Draft.check_eq_ok_iff]
  constructor
  · rintro ⟨_, ⟨longest, hlongestHeld, retention, hretentionHeld, timeout, htimeoutHeld, hdraft⟩,
      hlongestPasses, hretentionPasses, htimeoutPasses, hformat, hurl, hstem, hlevel⟩
    cases hdraft
    obtain ⟨h1, h1'⟩ := (hlongest _).mp ⟨_, hlongestHeld, hlongestPasses⟩
    obtain ⟨h2, h2'⟩ := (hretention _).mp ⟨_, hretentionHeld, hretentionPasses⟩
    obtain ⟨h3, h3'⟩ := (htimeout _).mp ⟨_, htimeoutHeld, htimeoutPasses⟩
    exact ⟨⟨h1, h2, hurl, h3, hstem, hlevel, formatOf_eq_ok_iff.mp hformat⟩, h1', h2', h3'⟩
  · rintro ⟨hstated, h1, h2, h3⟩
    obtain ⟨longest, hlongestHeld, hlongestPasses⟩ := (hlongest _).mpr ⟨hstated.longestGrant, h1⟩
    obtain ⟨retention, hretentionHeld, hretentionPasses⟩ :=
      (hretention _).mpr ⟨hstated.nonceRetention, h2⟩
    obtain ⟨timeout, htimeoutHeld, htimeoutPasses⟩ := (htimeout _).mpr ⟨hstated.storeTimeout, h3⟩
    exact ⟨_, ⟨longest, hlongestHeld, retention, hretentionHeld, timeout, htimeoutHeld, rfl⟩,
      hlongestPasses, hretentionPasses, htimeoutPasses,
      formatOf_eq_ok_iff.mpr hstated.journalFormat, hstated.storeUrl, hstated.keyStem,
      hstated.journalLevel⟩

/-- The numbers that the variables of an environment say; a text that cannot be read says none. -/
def numbers (env : Environment) : List (Option Number) :=
  [reading whole? Draft.defaultLongestGrant (env.held "BREAK_GLASS_MAX_TTL_SECONDS"),
   reading whole? Tracker.defaultRetention (env.held "NONCE_RETENTION_SECONDS"),
   reading binary? Draft.defaultTimeout (env.held "NONCE_STORE_TIMEOUT_SECONDS")]

/-- An environment is refused if it gives no settings. -/
theorem refused_iff :
    (∃ cause, env.settings = .error (.config cause)) ↔
      ¬∃ settings, env.settings = .ok settings := by
  rcases hsettings : env.settings with fault | settings
  · obtain ⟨cause, rfl⟩ := env.failsByConfig_settings fault hsettings
    refine iff_of_true ⟨cause, rfl⟩ ?_
    rintro ⟨settings, hnone⟩
    cases hnone
  · refine iff_of_false ?_ (not_not.mpr ⟨settings, rfl⟩)
    rintro ⟨cause, hnone⟩
    cases hnone

/-- Not all numbers that are said pass if a text says none or one is not above zero. -/
theorem not_forall_passes_iff {numbers : List (Option Number)} :
    (¬∀ said ∈ numbers, ∃ n, said = some n ∧ n.le (.int 0) = false) ↔
      none ∈ numbers ∨ ∃ n, some n ∈ numbers ∧ n ≠ .real .nan ∧ ¬n.IsPositive := by
  simp only [Number.le_zero_eq_false_iff]
  constructor
  · intro h
    push Not at h
    obtain ⟨said, hsaid, hfails⟩ := h
    rcases said with _ | n
    · exact .inl hsaid
    · obtain ⟨hpositive, hnan⟩ := hfails n rfl
      exact .inr ⟨n, hsaid, hnan, hpositive⟩
  · rintro (hnone | ⟨n, hn, hnan, hpositive⟩) h
    · obtain ⟨n, hn, -⟩ := h _ hnone
      cases hn
    · obtain ⟨m, hm, hpasses⟩ := h _ hn
      cases hm
      exact hpasses.elim hpositive hnan

/-- An environment gives settings if its variables say numbers that pass and a format. -/
theorem exists_settings_iff :
    (∃ settings, env.settings = .ok settings) ↔
      (∀ said ∈ env.numbers, ∃ n, said = some n ∧ n.le (.int 0) = false) ∧
        ∃ format, reading format? .json (env.held "LOG_FORMAT") = some format := by
  simp only [numbers, List.forall_mem_cons, List.not_mem_nil, false_imp_iff, implies_true,
    and_true]
  constructor
  · rintro ⟨settings, hsettings⟩
    obtain ⟨hstated, hlongest, hretention, htimeout⟩ := settings_eq_ok_iff.mp hsettings
    exact ⟨⟨⟨_, hstated.longestGrant, hlongest⟩, ⟨_, hstated.nonceRetention, hretention⟩,
      ⟨_, hstated.storeTimeout, htimeout⟩⟩, _, hstated.journalFormat⟩
  · rintro ⟨⟨⟨longest, hlongest, hfirst⟩, ⟨retention, hretention, hsecond⟩,
      ⟨timeout, htimeout, hthird⟩⟩, format, hformat⟩
    let settings : Settings := {
      longestGrant := longest
      nonceRetention := retention
      storeUrl := written? (env.held "NONCE_STORE_URL")
      storeTimeout := timeout
      keyStem := (written? (env.held "NONCE_KEY_PREFIX")).getD Tracker.defaultKeyStem
      journalLevel := Text.upper ((written? (env.held "LOG_LEVEL")).getD "INFO")
      journalFormat := format }
    have hstated : env.Says settings := ⟨hlongest, hretention, rfl, htimeout, rfl, rfl, hformat⟩
    exact ⟨settings, settings_eq_ok_iff.mpr ⟨hstated, hfirst, hsecond, hthird⟩⟩

/-- A variable says no format if its text is neither word, in any letter case. -/
theorem reading_format?_eq_none_iff {held : Option String} :
    reading format? .json held = none ↔
      ∃ s, written? held = some s ∧ Text.lower s ≠ "json" ∧ Text.lower s ≠ "console" := by
  unfold reading format? Journal.Format.ofWord?
  rcases written? held with _ | s
  · exact iff_of_false nofun nofun
  · simp only [Option.elim_some, Option.some.injEq, exists_eq_left']
    split_ifs with hjson hconsole <;> simp [*]

/-- A variable for a whole number never says what is no number. -/
theorem reading_whole?_ne_nan {default : Number} (hdefault : default ≠ .real .nan)
    (held : Option String) : reading whole? default held ≠ some (.real .nan) := by
  unfold reading whole?
  rcases written? held with _ | s
  · exact fun h => hdefault (Option.some.inj h)
  · rcases hread : Numeral.int? s with _ | j <;> simp [hread]

/-- The longest lifetime is a number by default. -/
theorem defaultLongestGrant_ne_nan : Draft.defaultLongestGrant ≠ .real .nan := nofun

/-- So is the least time that a nonce stays recorded. -/
theorem defaultRetention_ne_nan : Tracker.defaultRetention ≠ .real .nan := nofun

/-- A variable for a number of the binary format says what is no number only by the word for that.
-/
theorem reading_binary?_eq_nan_iff {held : Option String} :
    reading binary? Draft.defaultTimeout held = some (.real .nan) ↔
      ∃ s, written? held = some s ∧ Numeral.NamesNaN s := by
  unfold reading binary?
  rcases written? held with _ | s
  · exact iff_of_false nofun nofun
  · simp only [Option.elim_some, Option.some.injEq, exists_eq_left', Option.map_eq_some_iff,
      Number.real.injEq, exists_eq_right, Numeral.real?_eq_nan_iff]

/-- **Settings are valid or refused**, but for a time limit that is no number. For every
environment:

1. it gives settings that are what its variables say, each by itself, with numbers above zero and
   one of the two formats, or it is refused; only the time limit may also be no number;
2. it is refused exactly if a text cannot be read as a number, a number is not above zero though it
   is one, or the text for the format is neither word in any letter case;
3. the time limit is no number exactly if the text of its variable is the word for that;
4. no text counts of a variable that is absent or blank; of any other the trimmed text counts to
   which the variable adds outer blanks. -/
theorem settings_are_valid_or_refused (env : Environment) :
    ((∃ settings, env.settings = .ok settings ∧ env.Says settings ∧
        settings.longestGrant.IsPositive ∧ settings.nonceRetention.IsPositive ∧
        (settings.storeTimeout.IsPositive ∨ settings.storeTimeout = .real .nan) ∧
        settings.journalFormat.word ∈ ["json", "console"]) ∨
      ∃ cause, env.settings = .error (.config cause)) ∧
    ((∃ cause, env.settings = .error (.config cause)) ↔
      none ∈ env.numbers ∨
      (∃ n, some n ∈ env.numbers ∧ n ≠ .real .nan ∧ ¬n.IsPositive) ∨
      ∃ s, written? (env.held "LOG_FORMAT") = some s ∧
        Text.lower s ≠ "json" ∧ Text.lower s ≠ "console") ∧
    (some (.real .nan) ∈ env.numbers ↔
      ∃ s, written? (env.held "NONCE_STORE_TIMEOUT_SECONDS") = some s ∧ Numeral.NamesNaN s) ∧
    ∀ held : Option String,
      (written? held = none ↔ ∀ raw, held = some raw → Text.isBlankText raw = true) ∧
      ∀ s, written? held = some s ↔ s ≠ "" ∧ Text.IsTrimmed s ∧
        ∃ raw before behind, held = some raw ∧ Text.AreBlank before ∧ Text.AreBlank behind ∧
          raw.toList = before ++ s.toList ++ behind := by
  refine ⟨?_, ?_, ?_, fun held => ⟨written?_eq_none_iff, fun s => written?_eq_some_iff⟩⟩
  · rcases hsettings : env.settings with fault | settings
    · obtain ⟨cause, rfl⟩ := env.failsByConfig_settings fault hsettings
      exact .inr ⟨cause, rfl⟩
    · obtain ⟨hstated, hlongest, hretention, htimeout⟩ := settings_eq_ok_iff.mp hsettings
      refine .inl ⟨settings, rfl, hstated, ?_, ?_, Number.le_zero_eq_false_iff.mp htimeout, ?_⟩
      · refine (Number.le_zero_eq_false_iff.mp hlongest).resolve_right fun hnan => ?_
        have hsaid := hstated.longestGrant
        rw [hnan] at hsaid
        exact reading_whole?_ne_nan defaultLongestGrant_ne_nan _ hsaid
      · refine (Number.le_zero_eq_false_iff.mp hretention).resolve_right fun hnan => ?_
        have hsaid := hstated.nonceRetention
        rw [hnan] at hsaid
        exact reading_whole?_ne_nan defaultRetention_ne_nan _ hsaid
      · cases settings.journalFormat <;> decide
  · rw [refused_iff, exists_settings_iff, not_and_or, ← or_assoc]
    refine or_congr not_forall_passes_iff ?_
    · rw [← reading_format?_eq_none_iff, Option.eq_none_iff_forall_ne_some, not_exists]
  · have hlongest := (reading_whole?_ne_nan defaultLongestGrant_ne_nan
      (env.held "BREAK_GLASS_MAX_TTL_SECONDS")).symm
    have hretention := (reading_whole?_ne_nan defaultRetention_ne_nan
      (env.held "NONCE_RETENTION_SECONDS")).symm
    rw [← reading_binary?_eq_nan_iff, numbers, List.mem_cons, List.mem_cons, List.mem_singleton,
      or_iff_right hlongest, or_iff_right hretention]
    exact eq_comm

/-- **A time limit that is no number** is taken, though it is not above zero. -/
theorem time_limit_that_is_no_number :
    let env : Environment := [("SECRETS_AUTHZ_NONCE_STORE_TIMEOUT_SECONDS", "nan")]
    ∃ settings, env.settings = .ok settings ∧ ¬settings.storeTimeout.IsPositive := by
  intro env
  have hread : env.settings.toOption.map (·.storeTimeout) = some (.real .nan) := by
    decide +kernel
  rcases hsettings : env.settings with fault | settings
  · rw [hsettings] at hread
    cases hread
  · rw [hsettings] at hread
    have htimeout : settings.storeTimeout = .real .nan := Option.some.inj hread
    refine ⟨settings, rfl, ?_⟩
    rw [Number.IsPositive, htimeout]
    exact Bool.noConfusion

end Environment

end SecretAccess
