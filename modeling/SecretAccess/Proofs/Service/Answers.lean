import SecretAccess.Proofs.Numeric.Numerals
import SecretAccess.Proofs.Numeric.Overflow
import SecretAccess.Proofs.Service.Call
import SecretAccess.Resource.AllowList

/-!
# When a call is answered

Denials are data: a call that can be read is answered, unless it is judged by a grant that derails
(`Grant.Derails`); then the fault escapes instead of a denial. One derailment is an overflow. The
remaining time of a grant is a difference of the expiration, a whole number of any size, and the
clock. If the clock reads a number of the binary format and the expiration does not fit that format,
there is no difference. A nonce that holds surrogates derails a grant as well, and so does a longest
lifetime of thousands of digits.

* **`Call.answered_iff_not_derailed`**: with a tracker in memory a call is answered if and only if
  it does not derail. In particular a clock that reads whole numbers never overflows.
* Where a grant is judged and its expiration is unreadable, past or too far off, the answer passes
  on an emergency denial (`Call.conveys_denial`), however many digits the expiration has.
-/

namespace SecretAccess

/-! ## Expirations that are powers of ten -/

/-- The text of a power of ten. -/
def powerText (n : Nat) : String := String.ofList ('1' :: List.replicate n '0')

/-- The characters of such a text are digits. -/
theorem isDigit_of_mem_powerText {n : Nat} {c : Char} (h : c ∈ '1' :: List.replicate n '0') :
    c.isDigit = true := by
  rcases List.mem_cons.mp h with rfl | hzero
  · rfl
  · rw [List.eq_of_mem_replicate hzero]
    rfl

/-- Within the digit limit the text of a power of ten is read as that power. -/
theorem int?_powerText {n : Nat} (h : n < Number.digitLimit) :
    Numeral.int? (powerText n) = some ((Nat.pow 10 n : Nat) : Int) := by
  have hvalue : Nat.ofDigitChars 10 ('1' :: List.replicate n '0') 0 = Nat.pow 10 n := by
    rw [Nat.ofDigitChars_cons, Nat.ofDigitChars_replicate_zero]
    exact Nat.mul_one _
  have hlength : ('1' :: List.replicate n '0').length ≤ Number.digitLimit := by
    rw [List.length_cons, List.length_replicate]
    omega
  have hread := Numeral.int?_signed_digits false (List.cons_ne_nil _ _)
    (fun c => isDigit_of_mem_powerText) hlength
  rw [hvalue] at hread
  exact hread

/-- Such a text has no outer blanks. -/
theorem strip_powerText (n : Nat) : Text.strip (powerText n) = powerText n := by
  apply Text.strip_of_not_blank
  intro c hc
  unfold powerText at hc
  rw [String.toList_ofList] at hc
  exact Text.not_isBlank_of_isDigit (isDigit_of_mem_powerText hc)

/-- A grant with such an expiration states it. -/
theorem statedExpiration?_powerText {n : Nat} (h : n < Number.digitLimit)
    (reason : Option String) (nonce : Option Nonce) :
    (Grant.mk reason (.text (powerText n)) nonce).statedExpiration? =
      some ((Nat.pow 10 n : Nat) : Int) := by
  have hne : powerText n ≠ "" := by
    intro hempty
    rw [← String.toList_inj, powerText, String.toList_ofList] at hempty
    cases hempty
  rw [Grant.statedExpiration?_text (strip_powerText n) hne reason nonce, int?_powerText h]

namespace Call

/-! ## Calls that derail -/

/-- Whether a call is judged by a grant that derails, with the fault that escapes. -/
def Derails (call : Call) (fault : Fault) : Prop :=
  ∃ grant, call.judged? = some grant ∧
    grant.Derails call.service.longestGrant call.clock fault

/-- Whether the grant that a call is judged by expires after the clock and within the longest
lifetime that is allowed. -/
def IsTimely (call : Call) (grant : Grant) : Prop :=
  ∃ remaining, grant.Remains call.clock remaining ∧
    call.service.longestGrant.lt remaining = false

/-- A call that derails ends in the fault, whatever the tracker, and leaves the tracker alone. -/
theorem step_of_derails {call : Call} {fault : Fault} (h : call.Derails fault)
    (tracker : Tracker) : call.step tracker = ⟨.error fault, tracker, []⟩ := by
  obtain ⟨grant, hjudged, hderails⟩ := h
  obtain ⟨resource, answer, hstep, -⟩ := step_of_judged hjudged
  rw [hstep, Emergency.judge_of_fault (Emergency.vet_eq_fault_iff.mpr hderails)]
  rfl

/-- A judged call that does not derail is answered, and the answer passes on a decision of the
grant: access or an emergency denial. -/
theorem conveys_of_judged {call : Call} {grant : Grant} (hjudged : call.judged? = some grant)
    (hkept : ∀ fault, ¬call.Derails fault) (used : List String) :
    ∃ answer, (call.step (.memory used)).result = .ok answer ∧
      (answer.Conveys (.grantEmergency call.principal.caller) ∨
        ∃ rejection, answer.Conveys (Emergency.denial call.principal.caller rejection)) := by
  obtain ⟨resource, answer, hstep, -, -, hconveys⟩ := step_of_judged hjudged
  rw [hstep]
  rcases Emergency.judge_memory_cases call.service.longestGrant call.clock used grant resource
    call.principal.caller with
      ⟨_, -, -, hresult, -⟩ | ⟨⟨rejection, hresult⟩ | ⟨fault, -, hderails⟩, -⟩
  · refine ⟨answer (.grantEmergency call.principal.caller), ?_, Or.inl (hconveys _)⟩
    unfold Step.map
    rw [hresult]
    rfl
  · refine ⟨answer (Emergency.denial call.principal.caller rejection), ?_,
      Or.inr ⟨rejection, hconveys _⟩⟩
    unfold Step.map
    rw [hresult]
    rfl
  · exact absurd ⟨grant, hjudged, hderails⟩ (hkept fault)

/-- A judged call whose grant is not timely is answered with an emergency denial, unless it
derails. -/
theorem conveys_denial {call : Call} {grant : Grant} (hjudged : call.judged? = some grant)
    (hkept : ∀ fault, ¬call.Derails fault) (htimely : ¬call.IsTimely grant) (tracker : Tracker) :
    ∃ answer rejection, (call.step tracker).result = .ok answer ∧
      answer.Conveys (Emergency.denial call.principal.caller rejection) := by
  obtain ⟨resource, answer, hstep, -, -, hconveys⟩ := step_of_judged hjudged
  rw [hstep]
  rcases hvet : Emergency.vet call.service.longestGrant call.clock grant with
    fault | rejection | vetted
  · exact absurd ⟨grant, hjudged, Emergency.vet_eq_fault_iff.mp hvet⟩ (hkept fault)
  · refine ⟨answer (Emergency.denial call.principal.caller rejection), rejection, ?_, hconveys _⟩
    rw [Emergency.judge_of_rejected hvet]
    rfl
  · obtain ⟨hstated, hlater, hsub, hlong, -⟩ := Emergency.vet_eq_vetted_iff.mp hvet
    exact absurd ⟨vetted.remaining, ⟨vetted.expiration, hstated, hlater, hsub⟩, hlong⟩ htimely

/-- A grant that expires at a power of ten from `10^309` on derails at every clock that reads an
earlier number of the binary format. -/
theorem derails_of_power {call : Call} {n : Nat} {reason : Option String} {nonce : Option Nonce}
    {x : Binary64} (hjudged : call.judged? = some ⟨reason, .text (powerText n), nonce⟩)
    (hfar : 309 ≤ n) (hlimit : n < Number.digitLimit) (hclock : call.clock = .real x)
    (hlater : (Number.int (Nat.pow 10 n : Nat)).le (.real x) = false) :
    call.Derails .tooLargeForBinary := by
  have hbound : ∀ k, 309 = k → Binary64.overflowBound ≤ Nat.pow 10 k := by
    rintro k rfl
    decide +kernel
  obtain ⟨least, hleast⟩ : ∃ k, 309 = k := ⟨_, rfl⟩
  rw [hleast] at hfar
  have hpower := Nat.le_trans (hbound least hleast) (Nat.pow_le_pow_right (by decide) hfar)
  refine ⟨_, hjudged, .overflow (statedExpiration?_powerText hlimit reason nonce) ?_ hclock hpower⟩
  rw [hclock]
  exact hlater

/-! ## Which calls are answered -/

/-- A caller with an emergency grant that expires at `10^309`. -/
def farPrincipal : Principal :=
  ⟨⟨some "u", "user"⟩, [], some ⟨none, .text (powerText 309), some "n"⟩, true⟩

/-- The request of that caller for a secret. -/
def farCall (clock : Number) : Call :=
  ⟨⟨.shipped, .int 3600⟩, clock, farPrincipal, .secret (.text "discord-bot-token"), .read⟩

/-- **Denials are data, up to derailment.** With a tracker in memory a readable call is answered if
and only if it does not derail; if it does, it ends in the fault and the tracker stays as it is. A
call that is judged by a grant which is not timely, be its expiration unreadable, past or too far
off, and that does not derail, is answered with an emergency denial. -/
theorem answered_iff_not_derailed (call : Call) (hreadable : call.IsReadable)
    (used : List String) :
    ((∃ answer, (call.step (.memory used)).result = .ok answer) ↔
        ∀ fault, ¬call.Derails fault) ∧
      (∀ fault, call.Derails fault →
        call.step (.memory used) = ⟨.error fault, .memory used, []⟩) ∧
      ∀ grant, call.judged? = some grant → ¬call.IsTimely grant →
        (∀ fault, ¬call.Derails fault) →
          ∃ answer rejection, (call.step (.memory used)).result = .ok answer ∧
            answer.Conveys (Emergency.denial call.principal.caller rejection) := by
  refine ⟨⟨?_, ?_⟩, ?_, ?_⟩
  · rintro ⟨answer, hanswer⟩ fault hderails
    rw [step_of_derails hderails] at hanswer
    cases hanswer
  · intro hkept
    rcases hjudged : call.judged? with _ | grant
    · obtain ⟨result, journal, hstep, -, hanswered⟩ := isPlain_of_unjudged hjudged
      obtain ⟨answer, rfl⟩ := hanswered hreadable
      exact ⟨answer, by rw [hstep]⟩
    · obtain ⟨answer, hanswer, -⟩ := conveys_of_judged hjudged hkept used
      exact ⟨answer, hanswer⟩
  · intro fault hderails
    exact step_of_derails hderails _
  · intro grant hjudged htimely hkept
    exact conveys_denial hjudged hkept htimely _

/-- At a clock that reads whole numbers the request is answered. -/
theorem far_expiration_is_answered_at_whole_clock :
    (farCall (.int 1800000000)).IsReadable ∧
      ∃ answer, ((farCall (.int 1800000000)).step (.memory [])).result = .ok answer := by
  have hreadable : (farCall (.int 1800000000)).IsReadable := trivial
  refine ⟨hreadable, (answered_iff_not_derailed _ hreadable []).1.mpr ?_⟩
  rintro fault ⟨grant, hjudged, hderails⟩
  cases hjudged
  have htext : (Grant.mk none (.text (powerText 309)) (some "n")).bareNonce.text = .ok "n" := by
    decide +kernel
  exact Emergency.not_derails_of_texts rfl (by decide) htext fault hderails

/-- At a clock that reads numbers of the binary format it is not: the claims are read without
complaint, and the request ends in a fault. -/
theorem far_expiration_faults_at_binary_clock :
    Principal.ofClaims
        (.map [(.text "sub", .text "u"), (.text "break_glass", .text "true"),
          (.text "break_glass_exp", .text (powerText 309)), (.text "break_glass_nonce", .text "n")])
        true = .ok farPrincipal ∧
      ((farCall (.real (.finite false (1800000000 * Binary64.unitsPerOne)))).step
        (.memory [])).result = .error .tooLargeForBinary := by
  refine ⟨rfl, ?_⟩
  have hderails : (farCall (.real (.finite false (1800000000 * Binary64.unitsPerOne)))).Derails
      .tooLargeForBinary := by
    apply derails_of_power rfl (by decide) (by decide) rfl
    decide +kernel
  rw [step_of_derails hderails]

end Call

end SecretAccess
