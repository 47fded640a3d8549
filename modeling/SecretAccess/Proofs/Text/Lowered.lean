import Mathlib.Tactic.SplitIfs
import SecretAccess.Table
import SecretAccess.Text.LetterCase
import SecretAccess.Text.Written

/-!
# Texts in one letter case

Both case mappings are idempotent, and lower-casing keeps the segments of a text apart.
-/

namespace SecretAccess.Text

/-!
## Lowered texts and their segments

A character is *settled* if lower-casing leaves it alone wherever it stands. Every character of a
lowered text is settled (`settled_of_mem_lowerFrom`); the rule for the final sigma reads the
neighbours of capital sigmas only, and none is left. So

* **lowering is idempotent** (`lower_lower`), and every part of a lowered text is fixed by it
  (`lower_of_mem_segments`);
* **colons are neither made nor lost** (`colon_mem_lower_iff`);
* **the segments of a text are the only texts without separator that join to it**
  (`segments_eq_iff`).
-/

/-! ### The table -/

namespace CaseRun

/-- Whether a run moves a number. -/
def Holds (run : CaseRun) (n : Nat) : Prop :=
  run.first ≤ n ∧ n ≤ run.last ∧ (n - run.first) % run.stride = 0

/-- The number that the first of a run is moved to. -/
def lowest (run : CaseRun) : Nat := (run.first + run.shift).toNat

/-- The number that the last of a run is moved to. -/
def highest (run : CaseRun) : Nat := (run.last + run.shift).toNat

/-- Whether what one run moves ends up outside another: before it, behind it, or in the gaps of
alternating cases. -/
def isMissedBy (other run : CaseRun) : Bool :=
  Nat.blt run.highest other.first || Nat.blt other.last run.lowest ||
    (Nat.beq other.stride 2 && Nat.beq ((run.lowest + other.first) % 2) 1 &&
      (Nat.beq run.lowest run.highest || (Nat.beq run.stride 2 && Nat.blt 0 run.lowest)))

/-- A number that is moved by a run which misses another is not on the other. -/
theorem not_holds_of_isMissedBy {other run : CaseRun} {n : Nat} (h : other.isMissedBy run = true)
    (hn : run.Holds n) : ¬other.Holds (n + run.shift).toNat := by
  obtain ⟨hfirst, hlast, hstride⟩ := hn
  simp only [isMissedBy, Bool.or_eq_true, Bool.and_eq_true, Nat.blt_eq, Nat.beq_eq] at h
  rintro ⟨hstart, hend, hgap⟩
  unfold lowest highest at h
  rcases h with (h | h) | ⟨⟨halternating, hodd⟩, h | ⟨halike, hpositive⟩⟩
  · omega
  · omega
  · rw [halternating] at hgap
    omega
  · rw [halternating] at hgap
    rw [halike] at hstride
    omega

end CaseRun

/-- The colon and the dotted capital I, which the table leaves alone, as runs of their own. -/
def reservedRuns : List CaseRun :=
  [⟨':'.toNat, ':'.toNat, 1, 0⟩, ⟨'İ'.toNat, 'İ'.toNat, 1, 0⟩]

/-- The runs of the lower-case table miss each other, themselves and the reserved numbers. -/
theorem lowerRuns_missed :
    (lowerRuns.all fun run => (reservedRuns ++ lowerRuns).all fun other => other.isMissedBy run) =
      true := by
  decide +kernel

/-- A number that is moved lies on a run of the list. -/
theorem exists_run_of_shifted {runs : List CaseRun} {n m : Nat} (h : shifted runs n = some m) :
    ∃ run ∈ runs, run.Holds n ∧ m = (n + run.shift).toNat := by
  induction runs with
  | nil => cases h
  | cons run rest ih =>
    rw [shifted] at h
    split_ifs at h with hbefore hwithin hstride
    · rw [Option.some.injEq] at h
      exact ⟨run, List.mem_cons_self, ⟨by omega, hwithin, hstride⟩, h.symm⟩
    · obtain ⟨other, hmem, hother⟩ := ih h
      exact ⟨other, List.mem_cons_of_mem _ hmem, hother⟩

/-- What the runs of a list move a number to is not on any run that they all miss. -/
theorem not_holds_of_missed {runs others : List CaseRun}
    (hmissed : (runs.all fun run => others.all fun other => other.isMissedBy run) = true)
    {n m : Nat} (h : shifted runs n = some m) {other : CaseRun} (hother : other ∈ others) :
    ¬other.Holds m := by
  obtain ⟨run, hrun, hholds, rfl⟩ := exists_run_of_shifted h
  exact CaseRun.not_holds_of_isMissedBy
    (List.all_eq_true.mp (List.all_eq_true.mp hmissed run hrun) other hother) hholds

/-- What the lower-case table moves a number to is not moved any more, and not reserved. -/
theorem not_holds_of_shifted {n m : Nat} (h : shifted lowerRuns n = some m) {other : CaseRun}
    (hother : other ∈ reservedRuns ++ lowerRuns) : ¬other.Holds m :=
  not_holds_of_missed lowerRuns_missed h hother

/-- A number is that of its character, unless it is of none and the zero character stands in. -/
theorem toNat_ofNat_or (n : Nat) : (Char.ofNat n).toNat = n ∨ Char.ofNat n = '\x00' := by
  by_cases hvalid : n.isValidChar
  · left
    rw [Char.ofNat, dif_pos hvalid]
    rfl
  · right
    rw [Char.ofNat, dif_neg hvalid]
    rfl

/-! ### Settled characters -/

/-- Whether lower-casing leaves a character alone wherever it stands. -/
def Settled (c : Char) : Prop := c ≠ 'Σ' ∧ lowerOf c = [c]

/-- The character that the table moves a number to is settled, and no colon. -/
theorem settled_of_shifted {n m : Nat} (h : shifted lowerRuns n = some m) :
    Settled (Char.ofNat m) ∧ Char.ofNat m ≠ ':' := by
  have hstill : shifted lowerRuns m = none := by
    rcases hagain : shifted lowerRuns m with _ | k
    · rfl
    · obtain ⟨other, hother, hholds, -⟩ := exists_run_of_shifted hagain
      exact absurd hholds (not_holds_of_shifted h (List.mem_append_right _ hother))
  rcases toNat_ofNat_or m with hnumber | hzero
  · have hne : ∀ c : Char, (⟨c.toNat, c.toNat, 1, 0⟩ : CaseRun) ∈ reservedRuns →
        Char.ofNat m ≠ c := by
      rintro c hc rfl
      apply not_holds_of_shifted h (List.mem_append_left _ hc)
      exact ⟨Nat.le_of_eq hnumber, Nat.le_of_eq hnumber.symm, Nat.mod_one _⟩
    refine ⟨⟨?_, ?_⟩, hne ':' (by decide)⟩
    · intro hsigma
      have hmoved : (shifted lowerRuns 'Σ'.toNat).isSome = true := by decide +kernel
      rw [← hsigma, hnumber, hstill] at hmoved
      cases hmoved
    · unfold lowerOf shiftChar
      rw [if_neg (hne 'İ' (by decide)), hnumber, hstill]
  · rw [hzero]
    exact ⟨⟨by decide, by decide⟩, by decide⟩

/-- The lower case of a character other than a capital sigma is settled, and no colon unless the
character is one. -/
theorem settled_of_mem_lowerOf {c d : Char} (hc : c ≠ 'Σ') (h : d ∈ lowerOf c) :
    Settled d ∧ (d = ':' → c = ':') := by
  unfold lowerOf at h
  by_cases hdotted : c = 'İ'
  · rw [if_pos hdotted, List.mem_cons, List.mem_singleton] at h
    rcases h with rfl | rfl
    · exact ⟨⟨by decide, by decide⟩, fun he => absurd he (by decide)⟩
    · exact ⟨⟨by decide, by decide⟩, fun he => absurd he (by decide)⟩
  · rw [if_neg hdotted, List.mem_singleton] at h
    unfold shiftChar at h
    rcases hshift : shifted lowerRuns c.toNat with _ | n
    · rw [hshift] at h
      subst h
      refine ⟨⟨hc, ?_⟩, id⟩
      unfold lowerOf shiftChar
      rw [if_neg hdotted, hshift]
    · rw [hshift] at h
      subst h
      obtain ⟨hsettled, hcolon⟩ := settled_of_shifted hshift
      exact ⟨hsettled, fun he => absurd he hcolon⟩

/-- Either form of the small sigma is settled, and no colon. -/
theorem settled_sigmaBetween (casedBehind : Bool) (ahead : List Char) :
    Settled (sigmaBetween casedBehind ahead) ∧ sigmaBetween casedBehind ahead ≠ ':' := by
  unfold sigmaBetween
  split_ifs
  · exact ⟨⟨by decide, by decide⟩, by decide⟩
  · exact ⟨⟨by decide, by decide⟩, by decide⟩

/-- The characters of a lowered text are settled. -/
theorem settled_of_mem_lowerFrom {casedBehind : Bool} {cs : List Char} {d : Char}
    (h : d ∈ lowerFrom casedBehind cs) : Settled d := by
  induction cs generalizing casedBehind with
  | nil => cases h
  | cons c rest ih =>
    rw [lowerFrom, List.mem_append] at h
    rcases h with h | h
    · by_cases hc : c = 'Σ'
      · rw [if_pos hc, List.mem_singleton] at h
        rw [h]
        exact (settled_sigmaBetween _ _).1
      · rw [if_neg hc] at h
        exact (settled_of_mem_lowerOf hc h).1
    · exact ih h

/-- Settled characters stay as they are. -/
theorem lowerFrom_of_settled {cs : List Char} (h : ∀ c ∈ cs, Settled c) (casedBehind : Bool) :
    lowerFrom casedBehind cs = cs := by
  induction cs generalizing casedBehind with
  | nil => rfl
  | cons c rest ih =>
    obtain ⟨hsigma, hsame⟩ := h c List.mem_cons_self
    rw [lowerFrom, if_neg hsigma, hsame, ih fun d hd => h d (List.mem_cons_of_mem _ hd)]
    rfl

/-- Lower-casing keeps the colons of a text and makes none. -/
theorem colon_mem_lowerFrom_iff {casedBehind : Bool} {cs : List Char} :
    ':' ∈ lowerFrom casedBehind cs ↔ ':' ∈ cs := by
  induction cs generalizing casedBehind with
  | nil => exact Iff.rfl
  | cons c rest ih =>
    rw [lowerFrom, List.mem_append, ih, List.mem_cons]
    apply or_congr_left
    by_cases hc : c = 'Σ'
    · rw [if_pos hc, List.mem_singleton, hc]
      constructor
      · intro he
        exact absurd he.symm (settled_sigmaBetween _ _).2
      · intro he
        exact absurd he (by decide)
    · rw [if_neg hc]
      constructor
      · intro h
        exact ((settled_of_mem_lowerOf hc h).2 rfl).symm
      · rintro rfl
        decide

/-! ### Lowered texts -/

/-- The characters of a lowered text. -/
theorem toList_lower (s : String) : (lower s).toList = lowerFrom false s.toList :=
  String.toList_ofList

/-- A text of settled characters is its own lower case. -/
theorem lower_of_settled {s : String} (h : ∀ c ∈ s.toList, Settled c) : lower s = s := by
  rw [← String.toList_inj, toList_lower, lowerFrom_of_settled h]

/-- A text whose characters all stand in a lowered text is its own lower case. -/
theorem lower_of_subset {s t : String} (h : s.toList ⊆ (lower t).toList) : lower s = s := by
  apply lower_of_settled
  intro c hc
  have hmem := h hc
  rw [toList_lower] at hmem
  exact settled_of_mem_lowerFrom hmem

/-- Lowering is idempotent. -/
theorem lower_lower (s : String) : lower (lower s) = lower s :=
  lower_of_subset (List.Subset.refl _)

/-- A text and its lower case have a colon or both have none. -/
theorem colon_mem_lower_iff {s : String} : ':' ∈ (lower s).toList ↔ ':' ∈ s.toList := by
  rw [toList_lower, colon_mem_lowerFrom_iff]

/-- Only the empty text has an empty lower case. -/
theorem lower_eq_empty_iff {s : String} : lower s = "" ↔ s = "" := by
  rw [← String.toList_inj, ← String.toList_inj, toList_lower]
  rcases s.toList with _ | ⟨c, rest⟩
  · exact Iff.rfl
  · refine iff_of_false ?_ (List.cons_ne_nil _ _)
    intro h
    rw [lowerFrom] at h
    obtain ⟨hfirst, -⟩ := List.append_eq_nil_iff.mp h
    unfold lowerOf at hfirst
    split_ifs at hfirst

/-! ### Segments -/

/-- The pieces between separators are those of the standard library. -/
theorem cutAt_eq_splitOn (separator : Char) (cs : List Char) :
    cutAt separator cs = cs.splitOn separator := by
  induction cs with
  | nil => rfl
  | cons c rest ih =>
    obtain ⟨piece, pieces, hcut⟩ := List.exists_cons_of_ne_nil (cutAt_ne_nil separator rest)
    rw [cutAt, List.splitOn_cons_eq_if_modifyHead, ← ih, hcut]
    simp

/-- The characters of a piece stand in the text, and none is a separator. -/
theorem mem_and_ne_of_mem_cutAt {separator : Char} {cs piece : List Char}
    (h : piece ∈ cutAt separator cs) {c : Char} (hc : c ∈ piece) : c ∈ cs ∧ c ≠ separator := by
  induction cs generalizing piece with
  | nil =>
    rw [cutAt, List.mem_singleton] at h
    rw [h] at hc
    cases hc
  | cons d rest ih =>
    obtain ⟨first, more, hcut⟩ := List.exists_cons_of_ne_nil (cutAt_ne_nil separator rest)
    rw [hcut] at ih
    rw [cutAt, hcut] at h
    have hrest : ∀ {other}, other ∈ first :: more → c ∈ other →
        c ∈ d :: rest ∧ c ≠ separator := by
      intro other hother hmem
      obtain ⟨hin, hne⟩ := ih hother hmem
      exact ⟨List.mem_cons_of_mem _ hin, hne⟩
    by_cases hd : d = separator
    · simp only [hd, if_true, List.mem_cons] at h
      rcases h with rfl | h
      · cases hc
      · exact hrest (List.mem_cons.mpr h) hc
    · simp only [hd, if_false, List.mem_cons] at h
      rcases h with rfl | h
      · rcases List.mem_cons.mp hc with rfl | hc
        · exact ⟨List.mem_cons_self, hd⟩
        · exact hrest List.mem_cons_self hc
      · exact hrest (List.mem_cons_of_mem _ h) hc

/-- **The segments of a text** are the texts without separator that join to it, of which there is at
least one. -/
theorem segments_eq_iff {separator : Char} {s : String} {pieces : List String} :
    segments separator s = pieces ↔
      pieces ≠ [] ∧ (∀ piece ∈ pieces, separator ∉ piece.toList) ∧
        join (String.singleton separator) pieces = s := by
  unfold segments join
  constructor
  · rintro rfl
    refine ⟨?_, ?_, ?_⟩
    · rw [Ne, List.map_eq_nil_iff]
      exact cutAt_ne_nil separator s.toList
    · intro piece hpiece
      obtain ⟨cs, hcs, rfl⟩ := List.mem_map.mp hpiece
      rw [String.toList_ofList]
      intro hmem
      exact (mem_and_ne_of_mem_cutAt hcs hmem).2 rfl
    · rw [← String.toList_inj, String.toList_intercalate, List.map_map]
      simp [Function.comp_def, cutAt_eq_splitOn]
  · rintro ⟨hne, hpieces, rfl⟩
    rw [String.toList_intercalate, String.toList_singleton, cutAt_eq_splitOn,
      List.splitOn_intercalate]
    · rw [List.map_map]
      simp [Function.comp_def]
    · intro cs hcs
      obtain ⟨piece, hpiece, rfl⟩ := List.mem_map.mp hcs
      exact hpieces piece hpiece
    · rwa [Ne, List.map_eq_nil_iff]

/-- A segment of a lowered text is its own lower case. -/
theorem lower_of_mem_segments {separator : Char} {s piece : String}
    (h : piece ∈ segments separator (lower s)) : lower piece = piece := by
  obtain ⟨cs, hcs, rfl⟩ := List.mem_map.mp h
  apply lower_of_subset (t := s)
  intro c hc
  rw [String.toList_ofList] at hc
  exact (mem_and_ne_of_mem_cutAt hcs hc).1

/-!
## Raised texts

A character is *raised* if upper-casing leaves it alone. Upper-casing treats each character by
itself, by one of two tables: the case runs, or the list of characters that become several. What
either table gives is raised, so **upper-casing is idempotent** (`upper_upper`).
-/

/-- The characters that become several in upper case, as runs of their own. -/
def expandedRuns : List CaseRun := upperExpansions.map fun entry => ⟨entry.1, entry.1, 1, 0⟩

/-- The runs of the upper-case table miss each other, themselves and the characters that become
several. -/
theorem upperRuns_missed :
    (upperRuns.all fun run => (expandedRuns ++ upperRuns).all fun other => other.isMissedBy run) =
      true := by
  decide +kernel

/-- Whether upper-casing leaves a character alone. -/
def Raised (c : Char) : Prop := upperOf c = [c]

instance (c : Char) : Decidable (Raised c) := inferInstanceAs (Decidable (upperOf c = [c]))

/-- The characters that one character becomes are raised. -/
theorem raised_of_mem_upperExpansions :
    ∀ entry ∈ upperExpansions, ∀ n ∈ entry.2, Raised (Char.ofNat n) := by
  decide +kernel

/-- A character on no run of either table is raised. -/
theorem raised_of_not_holds {c : Char}
    (h : ∀ other ∈ expandedRuns ++ upperRuns, ¬other.Holds c.toNat) : Raised c := by
  have hsingle : upperExpansions.lookup c.toNat = none := by
    rw [List.lookup_eq_none_iff]
    intro entry hentry
    rw [bne_iff_ne]
    intro hkey
    apply h _ (List.mem_append_left _ (List.mem_map_of_mem hentry))
    exact ⟨Nat.le_of_eq hkey.symm, Nat.le_of_eq hkey, Nat.mod_one _⟩
  have hstill : shifted upperRuns c.toNat = none := by
    rcases hshift : shifted upperRuns c.toNat with _ | k
    · rfl
    · obtain ⟨other, hother, hholds, -⟩ := exists_run_of_shifted hshift
      exact absurd hholds (h other (List.mem_append_right _ hother))
  unfold Raised upperOf shiftChar
  rw [hsingle, hstill]

/-- The character that the runs move a number to is raised. -/
theorem raised_of_shifted {n m : Nat} (h : shifted upperRuns n = some m) :
    Raised (Char.ofNat m) := by
  rcases toNat_ofNat_or m with hnumber | hzero
  · refine raised_of_not_holds fun other hother => ?_
    rw [hnumber]
    exact not_holds_of_missed upperRuns_missed h hother
  · rw [hzero]
    decide +kernel

/-- What a character becomes in upper case is raised. -/
theorem raised_of_mem_upperOf {c d : Char} (h : d ∈ upperOf c) : Raised d := by
  rcases hexpansion : upperExpansions.lookup c.toNat with _ | expansion
  · have halone : upperOf c = [shiftChar upperRuns c] := by
      unfold upperOf
      rw [hexpansion]
    rw [halone, List.mem_singleton] at h
    rcases hshift : shifted upperRuns c.toNat with _ | n
    · have hsame : d = c := by
        rw [h, shiftChar, hshift]
      rw [hsame, Raised, halone, ← h, hsame]
    · have hmoved : d = Char.ofNat n := by
        rw [h, shiftChar, hshift]
      rw [hmoved]
      exact raised_of_shifted hshift
  · have hseveral : upperOf c = expansion.map Char.ofNat := by
      unfold upperOf
      rw [hexpansion]
    rw [hseveral, List.mem_map] at h
    obtain ⟨n, hn, rfl⟩ := h
    exact raised_of_mem_upperExpansions _ (Table.mem_of_lookup hexpansion) n hn

/-- **Upper-casing is idempotent.** -/
theorem upper_upper (s : String) : upper (upper s) = upper s := by
  have hraised : ∀ cs : List Char, (∀ c ∈ cs, Raised c) → cs.flatMap upperOf = cs := by
    intro cs hcs
    induction cs with
    | nil => rfl
    | cons c rest ih =>
      obtain ⟨hc, hrest⟩ := List.forall_mem_cons.mp hcs
      rw [List.flatMap_cons, show upperOf c = [c] from hc, ih hrest, List.singleton_append]
  unfold upper
  rw [String.toList_ofList, hraised]
  intro d hd
  obtain ⟨c, -, hc⟩ := List.mem_flatMap.mp hd
  exact raised_of_mem_upperOf hc

end SecretAccess.Text
