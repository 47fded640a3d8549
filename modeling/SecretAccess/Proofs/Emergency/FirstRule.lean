import SecretAccess.Proofs.Emergency.Vetting
import SecretAccess.Proofs.Numeric.Numerals

/-!
# A grant is denied for the first rule that it breaks

Five rules decide about a grant that is judged at a clock of whole numbers with a tracker in memory.
`Grant.Breaks` says what it is to break each of them, in terms of what the grant has written: a text
for the expiration, which denotes a whole number or none, and a text for the nonce. The rules are
independent of each other, and a grant may break several at once.

A grant that derails (`Grant.Derails`) is outside of the rules: no decision is made about it. At a
clock of whole numbers this is a grant with a nonce that is no text, one that is too far off where
the longest lifetime cannot be told in minutes, or one whose expiration has no text.

* **`Emergency.judge_memory_by_rules`**: of the grants that do not derail, one that breaks no rule
  gives emergency access and its nonce is recorded; any other is denied for the first rule that it
  breaks, and nothing is recorded.
* `judged_by_first_broken_rule` adds that breaking no rule is to expire after the clock and within
  the longest lifetime, with a nonce that is new.
-/

namespace SecretAccess

/-! ## What a grant has written -/

/-- No whole number is denoted by the empty text. -/
theorem Numeral.not_denotes_empty (i : Int) : ¬Numeral.Denotes "" i := by
  rw [← Numeral.int?_eq_some_iff]
  exact nofun

/-- A text denotes one whole number at most. -/
theorem Numeral.Denotes.unique {s : String} {i j : Int} (hi : Numeral.Denotes s i)
    (hj : Numeral.Denotes s j) : i = j := by
  rw [← Numeral.int?_eq_some_iff] at hi hj
  rw [hi] at hj
  exact Option.some.inj hj

namespace Grant

/-- The expiration of a grant without outer blanks; empty if there is none, or none with a text. -/
def bareExpiration (grant : Grant) : String :=
  match grant.expiresAt with
  | .null => ""
  | v => Text.strip (v.display.toOption.getD "")

/-- The expiration that vetting reads is the bare one, unless that is empty. -/
theorem expirationText?_eq_some_iff {grant : Grant} {written : String} :
    Emergency.expirationText? grant.expiresAt = .ok (some written) ↔
      grant.bareExpiration = written ∧ written ≠ "" := by
  have hread : ∀ v : Value, (v.display >>= fun s =>
      Except.ok (Option.filter (· ≠ "") (some (Text.strip s)))) = .ok (some written) ↔
        Text.strip (v.display.toOption.getD "") = written ∧ written ≠ "" := by
    intro v
    rcases v.display with fault | s
    · refine iff_of_false nofun ?_
      rintro ⟨rfl, hne⟩
      exact hne rfl
    · rw [bind_of_eq_ok rfl, Except.ok.injEq, Option.filter_eq_some_iff, Option.some.injEq,
        decide_eq_true_eq]
      rfl
  unfold bareExpiration Emergency.expirationText?
  rcases grant.expiresAt with _ | _ | _ | _ | _ | _
  case null =>
    refine iff_of_false nofun ?_
    rintro ⟨rfl, hne⟩
    exact hne rfl
  all_goals exact hread _

/-- A grant states the whole number that its bare expiration denotes. -/
theorem statedExpiration?_eq_some_iff {grant : Grant} {expiration : Int} :
    grant.statedExpiration? = some expiration ↔
      Numeral.Denotes grant.bareExpiration expiration := by
  rw [statedExpiration?_eq_some_iff_int?]
  simp only [expirationText?_eq_some_iff, Numeral.int?_eq_some_iff]
  constructor
  · rintro ⟨written, ⟨rfl, -⟩, hdenotes⟩
    exact hdenotes
  · intro hdenotes
    refine ⟨grant.bareExpiration, ⟨rfl, ?_⟩, hdenotes⟩
    intro hempty
    rw [hempty] at hdenotes
    exact Numeral.not_denotes_empty expiration hdenotes

/-- Nothing is read of an expiration that has a text and is empty without its blanks. -/
theorem expirationText?_of_empty {grant : Grant} (hempty : grant.bareExpiration = "")
    (htext : ∀ fault, Emergency.expirationText? grant.expiresAt ≠ .error fault) :
    Emergency.expirationText? grant.expiresAt = .ok none := by
  rcases hread : Emergency.expirationText? grant.expiresAt with fault | _ | written
  · exact absurd hread (htext fault)
  · rfl
  · obtain ⟨hbare, hne⟩ := expirationText?_eq_some_iff.mp hread
    exact absurd (hbare.symm.trans hempty) hne

/-! ## The rules -/

/-- The rules about grants, in the order in which they are checked, by the denial codes for breaking
them. -/
def rules : List DenialCode :=
  [.emergencyMissingExpiration, .emergencyExpired, .emergencyExceedsMaximum,
   .emergencyMissingNonce, .emergencyReplayed]

/-- Whether a grant breaks a rule, with a longest lifetime, at a clock, and with some fingerprints
recorded. -/
def Breaks (grant : Grant) (longest clock : Int) (used : List String) : DenialCode → Prop
  | .emergencyMissingExpiration => grant.bareExpiration = ""
  | .emergencyExpired =>
    (¬∃ expiration, Numeral.Denotes grant.bareExpiration expiration) ∨
      ∃ expiration, Numeral.Denotes grant.bareExpiration expiration ∧ expiration ≤ clock
  | .emergencyExceedsMaximum =>
    ∃ expiration, Numeral.Denotes grant.bareExpiration expiration ∧ longest < expiration - clock
  | .emergencyMissingNonce => grant.bareNonce.text = .ok ""
  | .emergencyReplayed => ∃ fingerprint ∈ used, grant.bareNonce.fingerprint = .ok fingerprint
  | _ => False

/-- Whether a rule is the first that a grant breaks. -/
def BreaksFirst (grant : Grant) (longest clock : Int) (used : List String) (code : DenialCode) :
    Prop :=
  ∃ before behind, rules = before ++ code :: behind ∧ grant.Breaks longest clock used code ∧
    ∀ earlier ∈ before, ¬grant.Breaks longest clock used earlier

section rules

variable {grant : Grant} {longest clock expiration : Int} {used : List String}

/-- A grant that has not expired has written a whole number. -/
theorem exists_denotes_of_not_breaks_expired
    (h : ¬grant.Breaks longest clock used .emergencyExpired) :
    ∃ expiration, Numeral.Denotes grant.bareExpiration expiration := by
  by_contra hnone
  exact h (Or.inl hnone)

/-- A whole expiration is past if it is not later than the clock. -/
theorem breaks_expired_iff (h : Numeral.Denotes grant.bareExpiration expiration) :
    grant.Breaks longest clock used .emergencyExpired ↔ expiration ≤ clock := by
  constructor
  · rintro (hnone | ⟨other, hother, hpast⟩)
    · exact absurd ⟨expiration, h⟩ hnone
    · rw [h.unique hother]
      exact hpast
  · exact fun hpast => Or.inr ⟨expiration, h, hpast⟩

/-- A whole expiration is too far off if it is later than the clock by more than the longest
lifetime. -/
theorem breaks_exceedsMaximum_iff (h : Numeral.Denotes grant.bareExpiration expiration) :
    grant.Breaks longest clock used .emergencyExceedsMaximum ↔ longest < expiration - clock := by
  constructor
  · rintro ⟨other, hother, hfar⟩
    rw [h.unique hother]
    exact hfar
  · exact fun hfar => ⟨expiration, h, hfar⟩

/-- A nonce that is a text is replayed if its fingerprint is recorded. -/
theorem breaks_replayed_iff {nonce : String} (h : grant.bareNonce.text = .ok nonce) :
    grant.Breaks longest clock used .emergencyReplayed ↔ Nonce.fingerprintOf nonce ∈ used := by
  unfold Breaks
  simp only [Nonce.fingerprint_eq_ok_iff, h, Except.ok.injEq]
  constructor
  · rintro ⟨_, hused, _, rfl, rfl⟩
    exact hused
  · exact fun hused => ⟨_, hused, nonce, rfl, rfl⟩

/-- A nonce that is a text is missing if that is empty. -/
theorem breaks_missingNonce_iff {nonce : String} (h : grant.bareNonce.text = .ok nonce) :
    grant.Breaks longest clock used .emergencyMissingNonce ↔ nonce = "" := by
  unfold Breaks
  rw [h, Except.ok.injEq]

/-- To break no rule, with a nonce that is a text, is to expire after the clock and within the
longest lifetime, with a nonce that is new. -/
theorem breaks_none_iff {nonce : String} (htext : grant.bareNonce.text = .ok nonce) :
    (∀ code, ¬grant.Breaks longest clock used code) ↔
      (∃ expiration, Numeral.Denotes grant.bareExpiration expiration ∧
          expiration - longest ≤ clock ∧ clock < expiration) ∧
        nonce ≠ "" ∧ Nonce.fingerprintOf nonce ∉ used := by
  have hmissing : grant.Breaks longest clock used .emergencyMissingNonce ↔ nonce = "" :=
    breaks_missingNonce_iff htext
  have hreplayed : grant.Breaks longest clock used .emergencyReplayed ↔
      Nonce.fingerprintOf nonce ∈ used := breaks_replayed_iff htext
  constructor
  · intro hnone
    obtain ⟨expiration, hdenotes⟩ := exists_denotes_of_not_breaks_expired (hnone .emergencyExpired)
    have hlater := hnone .emergencyExpired
    have hnear := hnone .emergencyExceedsMaximum
    rw [breaks_expired_iff hdenotes] at hlater
    rw [breaks_exceedsMaximum_iff hdenotes] at hnear
    exact ⟨⟨expiration, hdenotes, by omega, by omega⟩,
      mt hmissing.mpr (hnone .emergencyMissingNonce), mt hreplayed.mpr (hnone .emergencyReplayed)⟩
  · rintro ⟨⟨expiration, hdenotes, hnear, hlater⟩, hnonce, hnew⟩ code hbreaks
    cases code
    case emergencyMissingExpiration =>
      have hempty : grant.bareExpiration = "" := hbreaks
      rw [hempty] at hdenotes
      exact Numeral.not_denotes_empty expiration hdenotes
    case emergencyExpired =>
      rw [breaks_expired_iff hdenotes] at hbreaks
      omega
    case emergencyExceedsMaximum =>
      rw [breaks_exceedsMaximum_iff hdenotes] at hbreaks
      omega
    case emergencyMissingNonce => exact hnonce (hmissing.mp hbreaks)
    case emergencyReplayed => exact hnew (hreplayed.mp hbreaks)
    all_goals exact hbreaks

end rules

end Grant

/-! ## Judging -/

namespace Emergency

section judging

variable {grant : Grant} {longest clock : Int} {used : List String}

/-- A grant without an expiration is rejected for that, if it does not derail. -/
theorem vet_of_breaks_missingExpiration
    (hkept : ∀ fault, ¬grant.Derails (.int longest) (.int clock) fault)
    (h : grant.Breaks longest clock used .emergencyMissingExpiration) :
    vet (.int longest) (.int clock) grant = .ok (.error .missingExpiration) := by
  apply vet_of_unwritten
  refine Grant.expirationText?_of_empty h ?_
  intro fault hfault
  exact hkept fault (.unwritten (expirationText?_eq_error_iff.mp hfault))

/-- A grant whose expiration is there but unreadable or past is rejected for that. -/
theorem vet_of_breaks_expired
    (hwritten : ¬grant.Breaks longest clock used .emergencyMissingExpiration)
    (hbreaks : grant.Breaks longest clock used .emergencyExpired) :
    ∃ rejection, vet (.int longest) (.int clock) grant = .ok (.error rejection) ∧
      rejection.code = .emergencyExpired := by
  rcases hbreaks with hnone | ⟨expiration, hdenotes, hpast⟩
  · have hread := Grant.expirationText?_eq_some_iff.mpr ⟨rfl, hwritten⟩
    refine ⟨.malformedExpiration, vet_of_unreadable _ _ hread ?_, rfl⟩
    rw [Option.eq_none_iff_forall_ne_some]
    intro expiration hint
    exact hnone ⟨expiration, Numeral.int?_eq_some_iff.mp hint⟩
  · have hstated := Grant.statedExpiration?_eq_some_iff.mpr hdenotes
    exact ⟨.expired expiration, vet_of_past _ hstated hpast, rfl⟩

/-- A grant that is too far off is rejected for that, if it does not derail. -/
theorem vet_of_breaks_exceedsMaximum {expiration : Int}
    (hkept : ∀ fault, ¬grant.Derails (.int longest) (.int clock) fault)
    (hdenotes : Numeral.Denotes grant.bareExpiration expiration) (hlater : clock < expiration)
    (hbreaks : grant.Breaks longest clock used .emergencyExceedsMaximum) :
    ∃ rejection, vet (.int longest) (.int clock) grant = .ok (.error rejection) ∧
      rejection.code = .emergencyExceedsMaximum := by
  have hstated := Grant.statedExpiration?_eq_some_iff.mpr hdenotes
  have hvet := vet_of_far hstated hlater ((Grant.breaks_exceedsMaximum_iff hdenotes).mp hbreaks)
  rcases hminutes : Number.boundedText (longest.fdiv 60) with fault | minutes
  · rw [hminutes] at hvet
    exact absurd (vet_eq_fault_iff.mp hvet) (hkept fault)
  · rw [hminutes] at hvet
    exact ⟨_, hvet, rfl⟩

/-- The nonce of a grant in its window is a text, if the grant does not derail. -/
theorem exists_text_of_window {expiration : Int}
    (hkept : ∀ fault, ¬grant.Derails (.int longest) (.int clock) fault)
    (hdenotes : Numeral.Denotes grant.bareExpiration expiration) (hlater : clock < expiration)
    (hnear : expiration - longest ≤ clock) : ∃ nonce, grant.bareNonce.text = .ok nonce := by
  rcases htext : grant.bareNonce.text with fault | nonce
  · have hunexpired : (Number.int expiration).le (.int clock) = false := by
      rw [Number.int_le_int, decide_eq_false_iff_not]
      omega
    exact absurd (.torn ⟨expiration, Grant.statedExpiration?_eq_some_iff.mpr hdenotes, hunexpired,
      Number.int_sub_int _ _⟩ (not_lt_remaining hnear) htext) (hkept fault)
  · exact ⟨nonce, rfl⟩

/-- **One judgement, by the rules.** Of the grants that do not derail, one that breaks no rule gives
emergency access and its nonce is recorded. Any other is denied for the first rule that it breaks,
and nothing is recorded. -/
theorem judge_memory_by_rules (used : List String) (resource : Value) (caller : Caller)
    (hkept : ∀ fault, ¬grant.Derails (.int longest) (.int clock) fault) :
    (∃ nonce journal, grant.bareNonce.text = .ok nonce ∧
        judge (.int longest) (.int clock) (.memory used) grant resource caller =
          ⟨.ok (.grantEmergency caller), .memory (used ++ [Nonce.fingerprintOf nonce]), journal⟩ ∧
        ∀ code, ¬grant.Breaks longest clock used code) ∨
      ∃ rejection, judge (.int longest) (.int clock) (.memory used) grant resource caller =
          ⟨.ok (denial caller rejection), .memory used, [deniedEntry resource caller rejection]⟩ ∧
        grant.BreaksFirst longest clock used rejection.code := by
  -- the rules one after another; behind each of them the grant is known not to break it
  by_cases hmissing : grant.Breaks longest clock used .emergencyMissingExpiration
  · right
    have hvet := vet_of_breaks_missingExpiration hkept hmissing
    exact ⟨_, judge_of_rejected hvet _ _ _, [], _, rfl, hmissing, nofun⟩
  by_cases hexpired : grant.Breaks longest clock used .emergencyExpired
  · right
    obtain ⟨rejection, hvet, hcode⟩ := vet_of_breaks_expired hmissing hexpired
    refine ⟨rejection, judge_of_rejected hvet _ _ _, ?_⟩
    rw [hcode]
    exact ⟨[.emergencyMissingExpiration], _, rfl, hexpired, by simp [hmissing]⟩
  obtain ⟨expiration, hdenotes⟩ := Grant.exists_denotes_of_not_breaks_expired hexpired
  have hstated := Grant.statedExpiration?_eq_some_iff.mpr hdenotes
  have hlater : clock < expiration :=
    Int.not_le.mp (mt (Grant.breaks_expired_iff hdenotes).mpr hexpired)
  by_cases hexceeds : grant.Breaks longest clock used .emergencyExceedsMaximum
  · right
    obtain ⟨rejection, hvet, hcode⟩ := vet_of_breaks_exceedsMaximum hkept hdenotes hlater hexceeds
    refine ⟨rejection, judge_of_rejected hvet _ _ _, ?_⟩
    rw [hcode]
    exact ⟨[.emergencyMissingExpiration, .emergencyExpired], _, rfl, hexceeds,
      by simp [hmissing, hexpired]⟩
  have hnear : expiration - longest ≤ clock := by
    have hwithin := mt (Grant.breaks_exceedsMaximum_iff hdenotes).mpr hexceeds
    omega
  obtain ⟨nonce, htext⟩ := exists_text_of_window hkept hdenotes hlater hnear
  by_cases hnonce : grant.Breaks longest clock used .emergencyMissingNonce
  · right
    have hvet := vet_of_no_nonce hstated (Nonce.isEmpty_iff.mpr (Nonce.text_eq_ok_iff.mp hnonce))
      hnear hlater
    refine ⟨_, judge_of_rejected hvet _ _ _, ?_⟩
    exact ⟨[.emergencyMissingExpiration, .emergencyExpired, .emergencyExceedsMaximum], _, rfl,
      hnonce, by simp [hmissing, hexpired, hexceeds]⟩
  have hne := mt (Grant.breaks_missingNonce_iff htext).mpr hnonce
  have hvet := vet_of_window hstated htext hne hnear hlater
  by_cases hreplayed : grant.Breaks longest clock used .emergencyReplayed
  · right
    have hknown := (Grant.breaks_replayed_iff htext).mp hreplayed
    refine ⟨_, judge_memory_of_known hvet hknown _ _, ?_⟩
    exact ⟨[.emergencyMissingExpiration, .emergencyExpired, .emergencyExceedsMaximum,
      .emergencyMissingNonce], _, rfl, hreplayed, by simp [hmissing, hexpired, hexceeds, hnonce]⟩
  · left
    have hnew := mt (Grant.breaks_replayed_iff htext).mpr hreplayed
    exact ⟨nonce, _, htext, judge_memory_of_new hvet hnew _ _,
      (Grant.breaks_none_iff htext).mpr ⟨⟨expiration, hdenotes, hnear, hlater⟩, hne, hnew⟩⟩

end judging

/-! ## The decision -/

/-- **A grant is judged by the first rule that it breaks**, at a whole clock, with a longest
lifetime that is a whole number and with some fingerprints recorded in memory.

A grant that derails is not decided about: the fault escapes, and the recorded fingerprints stay as
they are. Any other grant is decided. Access is given, as emergency access, exactly if the
expiration denotes a whole number later than the clock by no more than the longest lifetime and the
nonce is there and new; the fingerprint of the nonce is then recorded. Otherwise the recorded
fingerprints stay as they are, and the denial has the code of the first rule that the grant breaks.
-/
theorem judged_by_first_broken_rule (longest clock : Int) (used : List String) (grant : Grant)
    (resource : Value) (caller : Caller) :
    (∀ fault, grant.Derails (.int longest) (.int clock) fault →
        judge? (.int longest) (.int clock) (.memory used) (some grant) resource caller =
          ⟨.error fault, .memory used, []⟩) ∧
      ((∀ fault, ¬grant.Derails (.int longest) (.int clock) fault) →
        ∃ decision tracker journal,
          judge? (.int longest) (.int clock) (.memory used) (some grant) resource caller =
            ⟨.ok (some decision), tracker, journal⟩ ∧
          (decision.isAuthorized = true ↔
            (∃ expiration, Numeral.Denotes grant.bareExpiration expiration ∧
                expiration - longest ≤ clock ∧ clock < expiration) ∧
              ∃ nonce, grant.bareNonce.text = .ok nonce ∧ nonce ≠ "" ∧
                Nonce.fingerprintOf nonce ∉ used) ∧
          decision.isEmergency = decision.isAuthorized ∧
          (decision.isAuthorized = true → ∃ nonce, grant.bareNonce.text = .ok nonce ∧
            tracker = .memory (used ++ [Nonce.fingerprintOf nonce])) ∧
          (decision.isAuthorized = false → tracker = .memory used ∧
            ∃ code, decision.code? = some code ∧ grant.BreaksFirst longest clock used code)) := by
  unfold judge?
  constructor
  · intro fault hderails
    simp only [judge_of_fault (vet_eq_fault_iff.mpr hderails)]
    rfl
  · intro hkept
    rcases judge_memory_by_rules used resource caller hkept with
      ⟨nonce, journal, htext, hjudge, hnone⟩ | ⟨rejection, hjudge, hfirst⟩
    · simp only [hjudge]
      obtain ⟨hwindow, hne, hnew⟩ := (Grant.breaks_none_iff htext).mp hnone
      exact ⟨_, _, _, rfl, iff_of_true rfl ⟨hwindow, nonce, htext, hne, hnew⟩, rfl,
        fun _ => ⟨nonce, htext, rfl⟩, nofun⟩
    · simp only [hjudge]
      refine ⟨_, _, _, rfl, iff_of_false nofun ?_, rfl, nofun, fun _ => ⟨rfl, _, rfl, hfirst⟩⟩
      rintro ⟨hwindow, nonce, htext, hne, hnew⟩
      obtain ⟨-, -, -, hbreaks, -⟩ := hfirst
      exact (Grant.breaks_none_iff htext).mpr ⟨hwindow, hne, hnew⟩ _ hbreaks

/-- A grant with a minute left and with a nonce that is a single surrogate is in its window, and no
nonce was ever used; the fault escapes all the same. -/
theorem surrogate_nonce_is_not_judged :
    let grant : Grant := ⟨none, .text "1800000060", some ⟨[.inr ⟨0⟩]⟩⟩
    (∃ expiration, Numeral.Denotes grant.bareExpiration expiration ∧
        expiration - 3600 ≤ 1800000000 ∧ 1800000000 < expiration) ∧
      grant.bareNonce.isEmpty = false ∧
      judge? (.int 3600) (.int 1800000000) (.memory []) (some grant) (.text "oauth")
          Caller.unknown = ⟨.error (.surrogates 0xD800 0 1), .memory [], []⟩ := by
  intro grant
  have hread : Numeral.int? grant.bareExpiration = some 1800000060 := by decide +kernel
  refine ⟨⟨1800000060, Numeral.int?_eq_some_iff.mp hread, by decide, by decide⟩, rfl, ?_⟩
  have hderails : grant.Derails (.int 3600) (.int 1800000000) (.surrogates 0xD800 0 1) :=
    .torn ⟨1800000060, Grant.statedExpiration?_eq_some_iff.mpr (Numeral.int?_eq_some_iff.mp hread),
      rfl, rfl⟩ rfl rfl
  unfold judge?
  simp only [judge_of_fault (vet_eq_fault_iff.mpr hderails)]
  rfl

end Emergency

end SecretAccess
