import SecretAccess.Emergency.Judgement
import SecretAccess.Proofs.Emergency.Nonces
import SecretAccess.Proofs.Numeric.Overflow

/-!
# What a vetted grant has passed

`Emergency.vet` looks at a grant alone. This file says exactly when it lets a grant through
(`vet_eq_vetted_iff`), when it has no answer (`vet_eq_fault_iff`), and what a judgement then makes
of the tracker in memory. The two readings of a grant that all later statements speak of are named
here: `Grant.bareNonce`, the nonce without outer blanks, and `Grant.statedExpiration?`, the
expiration as a whole number.

* **`Grant.Derails`** lists the four ways in which vetting comes to no answer. In each of them
  something on the way has no text or no value, and the fault escapes instead of a denial.
* **`judge_memory_cases`**: a judgement with a tracker in memory either records the fingerprint of
  the bare nonce, which is new, and gives emergency access, or it leaves the tracker as it is and
  gives no access. There is no third case, and no fault touches the tracker.
-/

namespace SecretAccess

namespace Grant

/-! ## Two readings of a grant -/

/-- The nonce of a grant without outer blanks; empty if there is none. -/
def bareNonce (grant : Grant) : Nonce := (grant.nonce.getD "").strip

/-- The expiration of a grant as a whole number, if it states one. -/
def statedExpiration? (grant : Grant) : Option Int :=
  match Emergency.expirationText? grant.expiresAt with
  | .ok (some written) => Numeral.int? written
  | _ => none

/-- Whether a grant states an expiration later than a clock, and how long that is still off. -/
def Remains (grant : Grant) (clock remaining : Number) : Prop :=
  ∃ expiration, grant.statedExpiration? = some expiration ∧
    (Number.int expiration).le clock = false ∧ (Number.int expiration).sub clock = .ok remaining

/-- How vetting a grant comes to no answer, with the fault that escapes. -/
inductive Derails (longest clock : Number) (grant : Grant) : Fault → Prop
  /-- The expiration came in as a value that has no text. -/
  | unwritten {fault : Fault} (hdisplay : grant.expiresAt.display = .error fault) :
    Derails longest clock grant fault
  /-- The expiration is still to come, but does not fit the binary format in which the clock
  reads. -/
  | overflow {expiration : Int} {x : Binary64}
    (hstated : grant.statedExpiration? = some expiration)
    (hlater : (Number.int expiration).le clock = false) (hclock : clock = .real x)
    (hbound : Binary64.overflowBound ≤ expiration.natAbs) :
    Derails longest clock grant .tooLargeForBinary
  /-- The expiration is too far off, and the longest lifetime has too many digits to be told in
  minutes. -/
  | unshown {remaining : Number} {minutes : Int} (hremains : grant.Remains clock remaining)
    (hlong : longest.lt remaining = true) (hminutes : longest.floorDiv 60 = .int minutes)
    (hvast : Number.isVast minutes = true) : Derails longest clock grant .tooManyDigits
  /-- The expiration is near enough, and the nonce holds surrogates. -/
  | torn {remaining : Number} {fault : Fault} (hremains : grant.Remains clock remaining)
    (hnear : longest.lt remaining = false) (htext : grant.bareNonce.text = .error fault) :
    Derails longest clock grant fault

section readings

variable {grant : Grant} {expiration : Int} {written : String}

/-- A grant states the whole number that its expiration is written as. -/
theorem statedExpiration?_eq_some_iff_int? :
    grant.statedExpiration? = some expiration ↔
      ∃ written, Emergency.expirationText? grant.expiresAt = .ok (some written) ∧
        Numeral.int? written = some expiration := by
  unfold statedExpiration?
  constructor
  · intro h
    split at h
    · rename_i written hwritten
      exact ⟨written, hwritten, h⟩
    · cases h
  · rintro ⟨written, hwritten, hint⟩
    rw [hwritten]
    exact hint

/-- An expiration that comes in as a text without outer blanks is stated if it is a numeral. -/
theorem statedExpiration?_text (hstrip : Text.strip written = written) (hne : written ≠ "")
    (reason : Option String) (nonce : Option Nonce) :
    (Grant.mk reason (.text written) nonce).statedExpiration? = Numeral.int? written := by
  have htext : Emergency.expirationText? (.text written) = .ok (some written) := by
    show Except.ok (Option.filter (· ≠ "") (some (Text.strip written))) = _
    rw [hstrip, Option.filter_some, if_pos (decide_eq_true hne)]
  unfold statedExpiration?
  rw [htext]

/-- The nonce that vetting looks at is the bare nonce, unless that is empty. -/
theorem bareNonce?_eq (grant : Grant) :
    Emergency.bareNonce? grant.nonce =
      if grant.bareNonce.isEmpty then none else some grant.bareNonce := by
  unfold Emergency.bareNonce? bareNonce
  rcases grant.nonce with _ | nonce
  · rfl
  · rw [Option.map_some, Option.getD_some, Option.filter_some]
    rcases nonce.strip.isEmpty <;> rfl

end readings

end Grant

namespace Emergency

/-- An expiration has no text to be judged exactly if it has none to be shown. -/
theorem expirationText?_eq_error_iff {value : Value} {fault : Fault} :
    expirationText? value = .error fault ↔ value.display = .error fault := by
  rcases value with _ | _ | _ | _ | _ | _
  case null => exact iff_of_false nofun nofun
  all_goals exact bind_ok_eq_error_iff

/-! ## Vetting

Three equations, one for each thing that the expiration may be: no whole number, past, or still to
come. All that is said later of `vet` and one grant is read off these. -/

/-- A grant whose expiration has no text is not judged. -/
theorem vet_of_unwritten_value (longest clock : Number) {grant : Grant} {fault : Fault}
    (h : expirationText? grant.expiresAt = .error fault) :
    vet longest clock grant = .error fault := by
  unfold vet
  exact bind_of_eq_error h

/-- A grant without an expiration is rejected for that. -/
theorem vet_of_unwritten (longest clock : Number) {grant : Grant}
    (h : expirationText? grant.expiresAt = .ok none) :
    vet longest clock grant = .ok (.error .missingExpiration) := by
  unfold vet
  exact bind_of_eq_ok h

/-- A grant whose expiration is no whole number is rejected for that. -/
theorem vet_of_unreadable (longest clock : Number) {grant : Grant} {written : String}
    (h : expirationText? grant.expiresAt = .ok (some written))
    (hint : Numeral.int? written = none) :
    vet longest clock grant = .ok (.error .malformedExpiration) := by
  unfold vet
  rw [bind_of_eq_ok h]
  simp only [hint]
  rfl

/-- A grant that states no expiration is rejected, whatever the clock says, or its expiration has no
text. -/
theorem vet_of_unstated (longest clock : Number) {grant : Grant}
    (h : grant.statedExpiration? = none) :
    (∃ fault, expirationText? grant.expiresAt = .error fault ∧
        vet longest clock grant = .error fault) ∨
      ∃ rejection, (rejection = .missingExpiration ∨ rejection = .malformedExpiration) ∧
        (∃ written, expirationText? grant.expiresAt = .ok written) ∧
        vet longest clock grant = .ok (.error rejection) := by
  unfold Grant.statedExpiration? at h
  rcases hwritten : expirationText? grant.expiresAt with fault | _ | written
  · exact .inl ⟨fault, rfl, vet_of_unwritten_value longest clock hwritten⟩
  · exact .inr ⟨_, .inl rfl, ⟨_, rfl⟩, vet_of_unwritten longest clock hwritten⟩
  · rw [hwritten] at h
    exact .inr ⟨_, .inr rfl, ⟨_, rfl⟩, vet_of_unreadable longest clock hwritten h⟩

/-- A grant whose expiration is not later than the clock has expired. -/
theorem vet_of_expired {longest clock : Number} {grant : Grant} {expiration : Int}
    (h : grant.statedExpiration? = some expiration)
    (hpast : (Number.int expiration).le clock = true) :
    vet longest clock grant = .ok (.error (.expired expiration)) := by
  obtain ⟨written, hwritten, hint⟩ := Grant.statedExpiration?_eq_some_iff_int?.mp h
  unfold vet
  rw [bind_of_eq_ok hwritten]
  simp only [hint, hpast, if_true]
  rfl

/-- What vetting makes of the remaining time of a grant that has not expired. -/
def vetRemaining (longest : Number) (grant : Grant) (expiration : Int) (remaining : Number) :
    Except Fault (Except Rejection Vetted) := do
  if longest.lt remaining then
    return .error (.tooLong expiration longest (← (longest.floorDiv 60).text))
  else if grant.bareNonce.isEmpty then return .error .missingNonce
  else return .ok ⟨expiration, remaining, ← grant.bareNonce.text⟩

/-- A grant whose expiration is still to come is judged by its remaining time, if that is a number
at all. -/
theorem vet_of_later {longest clock : Number} {grant : Grant} {expiration : Int}
    (h : grant.statedExpiration? = some expiration)
    (hlater : (Number.int expiration).le clock = false) :
    vet longest clock grant =
      ((Number.int expiration).sub clock) >>= vetRemaining longest grant expiration := by
  obtain ⟨written, hwritten, hint⟩ := Grant.statedExpiration?_eq_some_iff_int?.mp h
  unfold vet
  rw [bind_of_eq_ok hwritten]
  simp only [hint, hlater, Bool.false_eq_true, if_false]
  rcases (Number.int expiration).sub clock with fault | remaining
  · rfl
  · rw [bind_of_eq_ok rfl, bind_of_eq_ok rfl, Grant.bareNonce?_eq]
    unfold vetRemaining
    split
    · rfl
    · by_cases hempty : grant.bareNonce.isEmpty = true
      · simp only [hempty, if_true]
      · simp only [hempty, Bool.false_eq_true, if_false]

section remaining

variable {longest remaining : Number} {grant : Grant} {expiration : Int}

/-- A grant whose remaining time is too long is rejected for that, if the longest lifetime can be
told in minutes. -/
theorem vetRemaining_of_long (hlong : longest.lt remaining = true) :
    vetRemaining longest grant expiration remaining =
      (longest.floorDiv 60).text.map fun minutes =>
        .error (.tooLong expiration longest minutes) := by
  unfold vetRemaining
  rw [if_pos hlong]
  rcases (longest.floorDiv 60).text <;> rfl

/-- A grant that is near enough and has no nonce is rejected for that. -/
theorem vetRemaining_of_no_nonce (hnear : longest.lt remaining = false)
    (hempty : grant.bareNonce.isEmpty = true) :
    vetRemaining longest grant expiration remaining = .ok (.error .missingNonce) := by
  unfold vetRemaining
  rw [if_neg (Bool.eq_false_iff.mp hnear), if_pos hempty]
  rfl

/-- A grant that is near enough and has a nonce passes with the text of that. -/
theorem vetRemaining_of_nonce (hnear : longest.lt remaining = false)
    (hnonce : grant.bareNonce.isEmpty = false) :
    vetRemaining longest grant expiration remaining =
      grant.bareNonce.text.map fun nonce => .ok ⟨expiration, remaining, nonce⟩ := by
  unfold vetRemaining
  rw [if_neg (Bool.eq_false_iff.mp hnear), if_neg (Bool.eq_false_iff.mp hnonce)]
  rcases grant.bareNonce.text <;> rfl

/-- A remaining time passes if it is near enough and the nonce is a text that is not empty. -/
theorem vetRemaining_eq_vetted_iff {vetted : Vetted} :
    vetRemaining longest grant expiration remaining = .ok (.ok vetted) ↔
      vetted.expiration = expiration ∧ vetted.remaining = remaining ∧
        longest.lt remaining = false ∧ grant.bareNonce.text = .ok vetted.nonce ∧
        vetted.nonce ≠ "" := by
  rcases hlong : longest.lt remaining
  · rcases hempty : grant.bareNonce.isEmpty
    · rw [vetRemaining_of_nonce hlong hempty]
      obtain ⟨stated, left, nonce⟩ := vetted
      rcases htext : grant.bareNonce.text with fault | written
      · simp [Except.map]
      · have hne : written ≠ "" := by
          rintro rfl
          rw [Nonce.isEmpty_iff.mpr (Nonce.text_eq_ok_iff.mp htext)] at hempty
          cases hempty
        simp only [Except.map, Except.ok.injEq, Vetted.mk.injEq, true_and]
        constructor
        · rintro ⟨rfl, rfl, rfl⟩
          exact ⟨rfl, rfl, rfl, hne⟩
        · rintro ⟨rfl, rfl, rfl, -⟩
          exact ⟨rfl, rfl, rfl⟩
    · rw [vetRemaining_of_no_nonce hlong hempty]
      refine iff_of_false nofun ?_
      rintro ⟨-, -, -, htext, hne⟩
      rw [Nonce.isEmpty_iff.mp hempty, Nonce.text_ofText, Except.ok.injEq] at htext
      exact hne htext.symm
  · rw [vetRemaining_of_long hlong]
    refine iff_of_false ?_ nofun
    rcases (longest.floorDiv 60).text <;> exact nofun

end remaining

/-- **What a vetted grant has passed**: it states an expiration later than the clock, the remaining
time is a number within the longest lifetime, and its bare nonce is a text that is not empty. -/
theorem vet_eq_vetted_iff {longest clock : Number} {grant : Grant} {vetted : Vetted} :
    vet longest clock grant = .ok (.ok vetted) ↔
      grant.statedExpiration? = some vetted.expiration ∧
      (Number.int vetted.expiration).le clock = false ∧
      (Number.int vetted.expiration).sub clock = .ok vetted.remaining ∧
      longest.lt vetted.remaining = false ∧
      grant.bareNonce.text = .ok vetted.nonce ∧ vetted.nonce ≠ "" := by
  rcases hstated : grant.statedExpiration? with _ | expiration
  · refine iff_of_false ?_ nofun
    rcases vet_of_unstated longest clock hstated with ⟨fault, -, h⟩ | ⟨rejection, -, -, h⟩ <;>
      rw [h] <;> exact nofun
  · by_cases hle : (Number.int expiration).le clock = true
    · rw [vet_of_expired hstated hle]
      refine iff_of_false nofun ?_
      rintro ⟨hexpiration, hlater, -⟩
      rw [← Option.some.inj hexpiration, hle] at hlater
      cases hlater
    · rw [vet_of_later hstated (Bool.eq_false_iff.mpr hle), bind_eq_ok_iff]
      constructor
      · rintro ⟨remaining, hsub, hvetted⟩
        obtain ⟨rfl, rfl, hnear, htext, hne⟩ := vetRemaining_eq_vetted_iff.mp hvetted
        exact ⟨rfl, Bool.eq_false_iff.mpr hle, hsub, hnear, htext, hne⟩
      · rintro ⟨hexpiration, -, hsub, hnear, htext, hne⟩
        have hsame := Option.some.inj hexpiration
        rw [← hsame] at hsub
        exact ⟨vetted.remaining, hsub,
          vetRemaining_eq_vetted_iff.mpr ⟨hsame.symm, rfl, hnear, htext, hne⟩⟩

/-- A remaining time comes to no answer if it is too long and the longest lifetime cannot be told in
minutes, or if it is near enough and the nonce is no text. -/
theorem vetRemaining_eq_fault_iff {longest remaining : Number} {grant : Grant} {expiration : Int}
    {fault : Fault} :
    vetRemaining longest grant expiration remaining = .error fault ↔
      (longest.lt remaining = true ∧ (longest.floorDiv 60).text = .error fault) ∨
        (longest.lt remaining = false ∧ grant.bareNonce.text = .error fault) := by
  rcases hlong : longest.lt remaining
  · rcases hempty : grant.bareNonce.isEmpty
    · rw [vetRemaining_of_nonce hlong hempty]
      rcases grant.bareNonce.text <;> simp [Except.map]
    · rw [vetRemaining_of_no_nonce hlong hempty, Nonce.isEmpty_iff.mp hempty, Nonce.text_ofText]
      simp
  · rw [vetRemaining_of_long hlong]
    rcases (longest.floorDiv 60).text <;> simp [Except.map]

/-- **Vetting has no answer exactly if the grant derails.** -/
theorem vet_eq_fault_iff {longest clock : Number} {grant : Grant} {fault : Fault} :
    vet longest clock grant = .error fault ↔ grant.Derails longest clock fault := by
  constructor
  · intro h
    rcases hstated : grant.statedExpiration? with _ | expiration
    · rcases vet_of_unstated longest clock hstated with
        ⟨other, hwritten, hvet⟩ | ⟨rejection, -, -, hvet⟩
      · rw [hvet, Except.error.injEq] at h
        subst h
        exact .unwritten (expirationText?_eq_error_iff.mp hwritten)
      · rw [hvet] at h
        cases h
    · by_cases hle : (Number.int expiration).le clock = true
      · rw [vet_of_expired hstated hle] at h
        cases h
      have hlater := Bool.eq_false_iff.mpr hle
      rw [vet_of_later hstated hlater] at h
      rcases bind_eq_error_iff.mp h with hsub | ⟨remaining, hsub, hremaining⟩
      · obtain ⟨⟨x, hclock⟩, rfl, hbound⟩ := Number.int_sub_eq_error_iff.mp hsub
        exact .overflow hstated hlater hclock hbound
      · have hremains : grant.Remains clock remaining := ⟨expiration, hstated, hlater, hsub⟩
        rcases vetRemaining_eq_fault_iff.mp hremaining with
          ⟨hlong, hunshown⟩ | ⟨hnear, htext⟩
        · obtain ⟨minutes, hminutes, hvast, rfl⟩ := Number.text_eq_error_iff.mp hunshown
          exact .unshown hremains hlong hminutes hvast
        · exact .torn hremains hnear htext
  · intro h
    cases h with
    | unwritten hdisplay =>
      exact vet_of_unwritten_value longest clock (expirationText?_eq_error_iff.mpr hdisplay)
    | overflow hstated hlater hclock hbound =>
      rw [vet_of_later hstated hlater]
      exact bind_of_eq_error (Number.int_sub_eq_error_iff.mpr ⟨⟨_, hclock⟩, rfl, hbound⟩)
    | unshown hremains hlong hminutes hvast =>
      obtain ⟨expiration, hstated, hlater, hsub⟩ := hremains
      rw [vet_of_later hstated hlater, bind_of_eq_ok hsub]
      have hunshown := Number.text_eq_error_iff.mpr ⟨_, hminutes, hvast, rfl⟩
      exact vetRemaining_eq_fault_iff.mpr (.inl ⟨hlong, hunshown⟩)
    | torn hremains hnear htext =>
      obtain ⟨expiration, hstated, hlater, hsub⟩ := hremains
      rw [vet_of_later hstated hlater, bind_of_eq_ok hsub]
      exact vetRemaining_eq_fault_iff.mpr (.inr ⟨hnear, htext⟩)

/-! ### Whole clocks

Where clock and longest lifetime are whole numbers, a grant passes in a window of clock readings:
not before the expiration is within the longest lifetime, and not from the expiration on. -/

section whole

variable {longest clock expiration : Int} {grant : Grant}

/-- A grant that has not expired is judged by the difference to its expiration. -/
theorem vet_of_unexpired (longest : Number) (hstated : grant.statedExpiration? = some expiration)
    (hlater : clock < expiration) :
    vet longest (.int clock) grant =
      vetRemaining longest grant expiration (.int (expiration - clock)) := by
  have hunexpired : (Number.int expiration).le (.int clock) = false := by
    rw [Number.int_le_int, decide_eq_false_iff_not]
    omega
  rw [vet_of_later hstated hunexpired, Number.int_sub_int]
  rfl

/-- The difference to an expiration is within the longest lifetime from a moment on. -/
theorem not_lt_remaining (hnear : expiration - longest ≤ clock) :
    (Number.int longest).lt (.int (expiration - clock)) = false := by
  rw [Number.int_lt_int, decide_eq_false_iff_not]
  omega

/-- In its window a grant with a nonce that is a text passes. -/
theorem vet_of_window {nonce : String} (hstated : grant.statedExpiration? = some expiration)
    (htext : grant.bareNonce.text = .ok nonce) (hne : nonce ≠ "")
    (hnear : expiration - longest ≤ clock) (hlater : clock < expiration) :
    vet (.int longest) (.int clock) grant =
      .ok (.ok ⟨expiration, .int (expiration - clock), nonce⟩) := by
  rw [vet_of_unexpired _ hstated hlater]
  exact vetRemaining_eq_vetted_iff.mpr ⟨rfl, rfl, not_lt_remaining hnear, htext, hne⟩

/-- In its window a grant without a nonce is rejected for that. -/
theorem vet_of_no_nonce (hstated : grant.statedExpiration? = some expiration)
    (hnonce : grant.bareNonce.isEmpty = true) (hnear : expiration - longest ≤ clock)
    (hlater : clock < expiration) :
    vet (.int longest) (.int clock) grant = .ok (.error .missingNonce) := by
  rw [vet_of_unexpired _ hstated hlater]
  exact vetRemaining_of_no_nonce (not_lt_remaining hnear) hnonce

/-- A grant that has not expired is rejected if it does so too far off, if the longest lifetime can
be told in minutes. -/
theorem vet_of_far (hstated : grant.statedExpiration? = some expiration)
    (hlater : clock < expiration) (hfar : longest < expiration - clock) :
    vet (.int longest) (.int clock) grant = (Number.boundedText (longest.fdiv 60)).map
      fun minutes => .error (.tooLong expiration (.int longest) minutes) := by
  have hlong : (Number.int longest).lt (.int (expiration - clock)) = true := by
    rw [Number.int_lt_int, decide_eq_true_eq]
    exact hfar
  rw [vet_of_unexpired _ hstated hlater]
  exact vetRemaining_of_long hlong

/-- From its expiration on a grant has expired. -/
theorem vet_of_past (longest : Number) (hstated : grant.statedExpiration? = some expiration)
    (hpast : expiration ≤ clock) :
    vet longest (.int clock) grant = .ok (.error (.expired expiration)) := by
  apply vet_of_expired hstated
  rw [Number.int_le_int, decide_eq_true_eq]
  exact hpast

/-- Where all that is to be written can be written, no grant derails. -/
theorem not_derails_of_texts {written nonce : String}
    (hwritten : grant.expiresAt.display = .ok written)
    (hminutes : Number.isVast (longest.fdiv 60) = false) (htext : grant.bareNonce.text = .ok nonce)
    (fault : Fault) : ¬grant.Derails (.int longest) (.int clock) fault := by
  intro h
  cases h with
  | unwritten hdisplay =>
    rw [hwritten] at hdisplay
    cases hdisplay
  | overflow _ _ hclock _ => cases hclock
  | unshown _ _ hshown hvast =>
    cases hshown
    cases hminutes.symm.trans hvast
  | torn _ _ htorn =>
    rw [htext] at htorn
    cases htorn

end whole

/-! ## Redeeming a vetted grant

What the tracker says of the nonce decides; the tracker afterwards is whatever it made of itself. -/

/-- A denial gives no access. -/
@[simp] theorem isAuthorized_denial (caller : Caller) (rejection : Rejection) :
    (denial caller rejection).isAuthorized = false := rfl

section redeem

variable {clock : Number} {tracker after : Tracker} {grant : Grant} {vetted : Vetted}
  {resource : Value} {caller : Caller} {journal : List Journal.Entry}

/-- The first use of a nonce gives emergency access. -/
theorem redeem_of_first_use
    (h : tracker.consume clock vetted.nonce (some vetted.remaining) = ⟨.ok true, after, journal⟩) :
    redeem clock tracker grant vetted resource caller =
      ⟨.ok (.grantEmergency caller), after,
       journal ++ [grantedEntry resource caller grant vetted]⟩ := by
  unfold redeem
  rw [h]

/-- Any later use is denied. -/
theorem redeem_of_replay
    (h : tracker.consume clock vetted.nonce (some vetted.remaining) = ⟨.ok false, after, journal⟩) :
    redeem clock tracker grant vetted resource caller =
      ⟨.ok (denial caller (.replayed (Nonce.fingerprintOf vetted.nonce))), after,
       journal ++
         [deniedEntry resource caller (.replayed (Nonce.fingerprintOf vetted.nonce))]⟩ := by
  unfold redeem
  rw [h]

/-- A use that the tracker cannot tell from a replay is denied. -/
theorem redeem_of_unavailable {reason : String}
    (h : tracker.consume clock vetted.nonce (some vetted.remaining) =
      ⟨.error (.storeUnavailable reason), after, journal⟩) :
    redeem clock tracker grant vetted resource caller =
      ⟨.ok (denial caller (.unverifiable (Nonce.fingerprintOf vetted.nonce))), after,
       journal ++
        [deniedEntry resource caller (.unverifiable (Nonce.fingerprintOf vetted.nonce))]⟩ := by
  unfold redeem
  rw [h]

/-- A fault of the tracker that is not the report of a store is passed on. -/
theorem redeem_of_fault {fault : Fault}
    (h : tracker.consume clock vetted.nonce (some vetted.remaining) =
      ⟨.error fault, after, journal⟩) (hfault : ¬∃ reason, fault = .storeUnavailable reason) :
    redeem clock tracker grant vetted resource caller = ⟨.error fault, after, journal⟩ := by
  unfold redeem
  simp only [h]
  split
  · contradiction
  · contradiction
  · rename_i reason hreason
    cases hreason
    exact absurd ⟨reason, rfl⟩ hfault
  · rename_i hpassed
    cases hpassed
    rfl

/-- However a use ends, the tracker afterwards is what it made of itself. -/
theorem tracker_redeem :
    (redeem clock tracker grant vetted resource caller).tracker =
      (tracker.consume clock vetted.nonce (some vetted.remaining)).tracker := by
  unfold redeem
  dsimp only
  split <;> rfl

end redeem

/-! ## Judging

What vetting makes of the grant decides whether the tracker is reached at all. -/

section judge

variable {longest clock : Number} {grant : Grant}

/-- Where vetting has no answer, neither has the judgement, and the tracker is not reached. -/
theorem judge_of_fault {fault : Fault} (hvet : vet longest clock grant = .error fault)
    (tracker : Tracker) (resource : Value) (caller : Caller) :
    judge longest clock tracker grant resource caller = ⟨.error fault, tracker, []⟩ := by
  unfold judge
  rw [hvet]

/-- A grant that vetting rejects is denied, and the tracker is not reached. -/
theorem judge_of_rejected {rejection : Rejection}
    (hvet : vet longest clock grant = .ok (.error rejection)) (tracker : Tracker) (resource : Value)
    (caller : Caller) :
    judge longest clock tracker grant resource caller =
      ⟨.ok (denial caller rejection), tracker, [deniedEntry resource caller rejection]⟩ := by
  unfold judge
  rw [hvet]

/-- A vetted grant is judged by its nonce. -/
theorem judge_of_vetted {vetted : Vetted} (hvet : vet longest clock grant = .ok (.ok vetted))
    (tracker : Tracker) (resource : Value) (caller : Caller) :
    judge longest clock tracker grant resource caller =
      redeem clock tracker grant vetted resource caller := by
  unfold judge
  rw [hvet]

end judge

/-! ### With a tracker in memory -/

/-- A nonce that is new to the tracker in memory is recorded at its end. -/
theorem consume_memory_of_not_mem {clock : Number} {used : List String} {nonce : String}
    {remaining : Option Number} (h : Nonce.fingerprintOf nonce ∉ used) :
    Tracker.consume (.memory used) clock nonce remaining =
      ⟨.ok true, .memory (used ++ [Nonce.fingerprintOf nonce]), []⟩ := by
  unfold Tracker.consume
  simp only [List.contains_eq_mem, h, decide_false, Bool.false_eq_true, if_false]

/-- A nonce that the tracker in memory knows is not recorded again. -/
theorem consume_memory_of_mem {clock : Number} {used : List String} {nonce : String}
    {remaining : Option Number} (h : Nonce.fingerprintOf nonce ∈ used) :
    Tracker.consume (.memory used) clock nonce remaining = ⟨.ok false, .memory used, []⟩ := by
  unfold Tracker.consume
  simp only [List.contains_eq_mem, h, decide_true, if_true]

section judged

variable {longest clock : Number} {used : List String} {grant : Grant} {vetted : Vetted}

/-- A vetted grant with a new nonce gives emergency access, and the nonce is recorded. -/
theorem judge_memory_of_new (hvet : vet longest clock grant = .ok (.ok vetted))
    (hnew : Nonce.fingerprintOf vetted.nonce ∉ used) (resource : Value) (caller : Caller) :
    judge longest clock (.memory used) grant resource caller =
      ⟨.ok (.grantEmergency caller), .memory (used ++ [Nonce.fingerprintOf vetted.nonce]),
        [grantedEntry resource caller grant vetted]⟩ := by
  rw [judge_of_vetted hvet]
  exact redeem_of_first_use (consume_memory_of_not_mem hnew)

/-- A vetted grant with a known nonce is denied as a replay. -/
theorem judge_memory_of_known (hvet : vet longest clock grant = .ok (.ok vetted))
    (hknown : Nonce.fingerprintOf vetted.nonce ∈ used) (resource : Value) (caller : Caller) :
    judge longest clock (.memory used) grant resource caller =
      ⟨.ok (denial caller (.replayed (Nonce.fingerprintOf vetted.nonce))), .memory used,
        [deniedEntry resource caller (.replayed (Nonce.fingerprintOf vetted.nonce))]⟩ := by
  rw [judge_of_vetted hvet]
  exact redeem_of_replay (consume_memory_of_mem hknown)

end judged

/-- **The two things a judgement does to a tracker in memory.** Either it gives emergency access and
records the fingerprint of the bare nonce, which was not recorded before; or it answers with a
denial or with the fault of a grant that derails, and the tracker stays as it is. -/
theorem judge_memory_cases (longest clock : Number) (used : List String) (grant : Grant)
    (resource : Value) (caller : Caller) :
    (∃ nonce, grant.bareNonce.text = .ok nonce ∧ Nonce.fingerprintOf nonce ∉ used ∧
        (judge longest clock (.memory used) grant resource caller).result =
          .ok (.grantEmergency caller) ∧
        (judge longest clock (.memory used) grant resource caller).tracker =
          .memory (used ++ [Nonce.fingerprintOf nonce])) ∨
      (((∃ rejection, (judge longest clock (.memory used) grant resource caller).result =
            .ok (denial caller rejection)) ∨
          ∃ fault, (judge longest clock (.memory used) grant resource caller).result =
            .error fault ∧ grant.Derails longest clock fault) ∧
        (judge longest clock (.memory used) grant resource caller).tracker = .memory used) := by
  rcases hvet : vet longest clock grant with fault | rejection | vetted
  · rw [judge_of_fault hvet]
    exact Or.inr ⟨Or.inr ⟨fault, rfl, vet_eq_fault_iff.mp hvet⟩, rfl⟩
  · rw [judge_of_rejected hvet]
    exact Or.inr ⟨Or.inl ⟨rejection, rfl⟩, rfl⟩
  · obtain ⟨-, -, -, -, hnonce, -⟩ := vet_eq_vetted_iff.mp hvet
    by_cases hmem : Nonce.fingerprintOf vetted.nonce ∈ used
    · rw [judge_memory_of_known hvet hmem]
      exact Or.inr ⟨Or.inl ⟨_, rfl⟩, rfl⟩
    · rw [judge_memory_of_new hvet hmem]
      exact Or.inl ⟨vetted.nonce, hnonce, hmem, rfl, rfl⟩

end Emergency

end SecretAccess
