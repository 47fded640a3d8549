import SecretAccess.Proofs.Text.Lowered

/-!
# Lower-casing a text behind another

What lower-casing makes of a character depends on what stands before it in one case only: a capital
sigma behind a cased letter may be a final one. So

* the lower case of a text that is put behind another without capital sigmas is read off the two
  texts and one truth value, whether the nearest character of the first that is not ignorable is
  cased (`lowerFrom_append`);
* **behind a cased letter a text has the same lower case as by itself**, unless it opens with a
  capital sigma that nothing cased follows (`lowerFrom_true_eq_iff`); this one becomes the final
  form (`final_mem_lowerFrom_true`).
-/

namespace SecretAccess.Text

/-! ## What stands behind -/

/-- Whether, after some more characters, the nearest one behind that is not ignorable is cased. -/
def casedAfter (casedBehind : Bool) : List Char → Bool
  | [] => casedBehind
  | c :: rest => casedAfter (if isCaseIgnorable c then casedBehind else isCased c) rest

/-- The lower case of what follows characters without capital sigma depends on these by one truth
value. -/
theorem lowerFrom_append {before : List Char} (h : 'Σ' ∉ before) (casedBehind : Bool)
    (cs : List Char) :
    lowerFrom casedBehind (before ++ cs) =
      lowerFrom casedBehind before ++ lowerFrom (casedAfter casedBehind before) cs := by
  induction before generalizing casedBehind with
  | nil => rfl
  | cons c rest ih =>
    rw [List.mem_cons, not_or] at h
    obtain ⟨hc, hrest⟩ := h
    rw [List.cons_append, lowerFrom, lowerFrom, if_neg (Ne.symm hc), if_neg (Ne.symm hc), ih hrest,
      List.append_assoc]
    rfl

/-! ## A final sigma at the front -/

/-- Whether some characters open with a capital sigma that nothing cased follows; ignorable
characters may stand before it. -/
def OpensWithFinal (cs : List Char) : Prop :=
  ∃ skipped rest, cs = skipped ++ 'Σ' :: rest ∧ (∀ c ∈ skipped, isCaseIgnorable c = true) ∧
    casedAhead rest = false

/-- The capital sigma is not ignorable. -/
theorem isCaseIgnorable_sigma : isCaseIgnorable 'Σ' = false := by
  decide +kernel

/-- No characters open with anything. -/
theorem not_opensWithFinal_nil : ¬OpensWithFinal [] := by
  rintro ⟨skipped, rest, hnil, -⟩
  exact List.append_ne_nil_of_right_ne_nil skipped (List.cons_ne_nil _ _) hnil.symm

/-- A character that is ignorable does not decide how a text opens. -/
theorem opensWithFinal_cons_of_ignorable {c : Char} (hc : isCaseIgnorable c = true)
    {rest : List Char} : OpensWithFinal (c :: rest) ↔ OpensWithFinal rest := by
  constructor
  · rintro ⟨skipped, behind, heq, hskipped, hahead⟩
    cases skipped with
    | nil =>
      obtain ⟨rfl, -⟩ := List.cons.inj heq
      rw [isCaseIgnorable_sigma] at hc
      cases hc
    | cons first more =>
      obtain ⟨-, hrest⟩ := List.cons.inj heq
      exact ⟨more, behind, hrest, fun d hd => hskipped d (List.mem_cons_of_mem _ hd), hahead⟩
  · rintro ⟨skipped, behind, rfl, hskipped, hahead⟩
    exact ⟨c :: skipped, behind, rfl, List.forall_mem_cons.mpr ⟨hc, hskipped⟩, hahead⟩

/-- A character that is not ignorable does. -/
theorem opensWithFinal_cons_of_not_ignorable {c : Char} (hc : isCaseIgnorable c = false)
    {rest : List Char} : OpensWithFinal (c :: rest) ↔ c = 'Σ' ∧ casedAhead rest = false := by
  constructor
  · rintro ⟨skipped, behind, heq, hskipped, hahead⟩
    cases skipped with
    | nil =>
      obtain ⟨rfl, rfl⟩ := List.cons.inj heq
      exact ⟨rfl, hahead⟩
    | cons first more =>
      obtain ⟨rfl, -⟩ := List.cons.inj heq
      rw [hskipped c List.mem_cons_self] at hc
      cases hc
  · rintro ⟨rfl, hahead⟩
    exact ⟨[], rest, rfl, nofun, hahead⟩

/-- **Behind a cased letter** a text has the same lower case as by itself, unless it opens with a
final sigma. -/
theorem lowerFrom_true_eq_iff {cs : List Char} :
    lowerFrom true cs = lowerFrom false cs ↔ ¬OpensWithFinal cs := by
  induction cs with
  | nil => exact iff_of_true rfl not_opensWithFinal_nil
  | cons c rest ih =>
    rw [lowerFrom, lowerFrom]
    by_cases hignorable : isCaseIgnorable c = true
    · have hsigma : c ≠ 'Σ' := by
        rintro rfl
        rw [isCaseIgnorable_sigma] at hignorable
        cases hignorable
      rw [if_neg hsigma, if_neg hsigma, if_pos hignorable, if_pos hignorable,
        opensWithFinal_cons_of_ignorable hignorable, List.append_cancel_left_eq, ih]
    · rw [Bool.not_eq_true] at hignorable
      rw [if_neg (Bool.eq_false_iff.mp hignorable), if_neg (Bool.eq_false_iff.mp hignorable),
        opensWithFinal_cons_of_not_ignorable hignorable, List.append_cancel_right_eq]
      by_cases hsigma : c = 'Σ'
      · rw [if_pos hsigma, if_pos hsigma, List.singleton_inj, sigmaBetween, sigmaBetween]
        cases casedAhead rest <;> simp [hsigma]
      · rw [if_neg hsigma, if_neg hsigma]
        exact iff_of_true rfl fun h => hsigma h.1

/-- A final sigma at the front becomes the final form of the small sigma behind a cased letter. -/
theorem final_mem_lowerFrom_true {cs : List Char} (h : OpensWithFinal cs) :
    'ς' ∈ lowerFrom true cs := by
  induction cs with
  | nil => exact absurd h not_opensWithFinal_nil
  | cons c rest ih =>
    rw [lowerFrom, List.mem_append]
    by_cases hignorable : isCaseIgnorable c = true
    · rw [if_pos hignorable]
      exact .inr (ih ((opensWithFinal_cons_of_ignorable hignorable).mp h))
    · obtain ⟨rfl, hahead⟩ :=
        (opensWithFinal_cons_of_not_ignorable (Bool.eq_false_iff.mpr hignorable)).mp h
      left
      rw [if_pos rfl, sigmaBetween, hahead]
      exact List.mem_singleton.mpr rfl

/-! ## Where final sigmas come from -/

/-- The final form of the small sigma as a run of its own. -/
def finalRun : CaseRun := ⟨'ς'.toNat, 'ς'.toNat, 1, 0⟩

/-- The runs of the lower-case table miss the final form of the small sigma. -/
theorem finalRun_missed :
    (lowerRuns.all fun run => [finalRun].all fun other => other.isMissedBy run) = true := by
  decide +kernel

/-- Only a sigma, capital or final, becomes a final one. -/
theorem eq_of_final_mem_lowerOf {c : Char} (h : 'ς' ∈ lowerOf c) : c = 'ς' := by
  unfold lowerOf at h
  split_ifs at h
  · exact absurd h (by decide)
  · rw [List.mem_singleton, shiftChar] at h
    rcases hshift : shifted lowerRuns c.toNat with _ | n
    · rw [hshift] at h
      exact h.symm
    · rw [hshift] at h
      have hfinal : Char.ofNat n = 'ς' := h.symm
      rcases toNat_ofNat_or n with hnumber | hzero
      · rw [hfinal] at hnumber
        refine absurd ?_ (not_holds_of_missed finalRun_missed hshift (List.mem_singleton.mpr rfl))
        exact ⟨Nat.le_of_eq hnumber, Nat.le_of_eq hnumber.symm, Nat.mod_one _⟩
      · rw [hfinal] at hzero
        exact absurd hzero (by decide)

/-- The lower case of a text has a final sigma only if the text has a sigma, capital or final. -/
theorem sigma_mem_of_final_mem_lowerFrom {casedBehind : Bool} {cs : List Char}
    (h : 'ς' ∈ lowerFrom casedBehind cs) : 'Σ' ∈ cs ∨ 'ς' ∈ cs := by
  induction cs generalizing casedBehind with
  | nil => cases h
  | cons c rest ih =>
    rw [List.mem_cons, List.mem_cons]
    rw [lowerFrom, List.mem_append] at h
    rcases h with h | h
    · by_cases hsigma : c = 'Σ'
      · exact .inl (.inl hsigma.symm)
      · rw [if_neg hsigma] at h
        exact .inr (.inl (eq_of_final_mem_lowerOf h).symm)
    · exact (ih h).imp .inr .inr

end SecretAccess.Text
