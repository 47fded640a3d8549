import Mathlib.Data.List.DropRight
import SecretAccess.Proofs.Text.Lowered
import SecretAccess.Text.Characters

/-!
# Trimmed texts

A text is *trimmed* if it neither starts nor ends with a blank; the empty text is. Stripping a text
gives the one trimmed text that differs from it in outer blanks only (**`strip_eq_iff`**), so outer
blanks are of no consequence for what is stripped, and a trimmed text is its own strip.

Lower-casing makes no character blank that was none before (`isBlank_of_mem_lowerOf`), and it leaves
nothing out. So **the lower case of a trimmed text is trimmed** (`IsTrimmed.lower`).
-/

namespace SecretAccess.Text

/-- Whether all of some characters are blank. -/
def AreBlank (cs : List Char) : Prop := ∀ c ∈ cs, isBlank c = true

/-- Characters are not all blank if one of them is not. -/
theorem not_areBlank_iff {cs : List Char} : ¬AreBlank cs ↔ ∃ c ∈ cs, isBlank c = false := by
  simp [AreBlank]

/-- A text is blank if its characters are. -/
theorem isBlankText_iff {s : String} : isBlankText s = true ↔ AreBlank s.toList :=
  List.all_eq_true

/-- The visible characters of ASCII are not blank. -/
theorem not_isBlank_of_visible {c : Char} (hlow : 33 ≤ c.toNat) (hhigh : c.toNat ≤ 126) :
    isBlank c = false := by
  unfold isBlank blankRanges
  simp [inRanges]
  omega

/-- Whether characters neither start nor end with a blank. -/
structure AreTrimmed (cs : List Char) : Prop where
  /-- The first character is not blank. -/
  first : ∀ c ∈ cs.head?, isBlank c = false
  /-- The last character is not blank. -/
  last : ∀ c ∈ cs.getLast?, isBlank c = false

/-- Whether a text neither starts nor ends with a blank. -/
def IsTrimmed (s : String) : Prop := AreTrimmed s.toList

/-! ## Stripping -/

/-- Stripping drops the blanks at the start and then those at the end. -/
theorem stripChars_eq_rdropWhile (cs : List Char) :
    stripChars cs = (cs.dropWhile isBlank).rdropWhile isBlank := rfl

/-- Nothing is dropped from characters that do not start with a blank. -/
theorem dropWhile_of_first {cs : List Char} (h : ∀ c ∈ cs.head?, isBlank c = false) :
    cs.dropWhile isBlank = cs := by
  rcases cs with _ | ⟨c, rest⟩
  · rfl
  · rw [List.dropWhile_cons_of_neg]
    rw [h c rfl]
    exact Bool.false_ne_true

/-- Trimmed characters have nothing to strip. -/
theorem stripChars_of_areTrimmed {cs : List Char} (h : AreTrimmed cs) : stripChars cs = cs := by
  rw [stripChars_eq_rdropWhile, dropWhile_of_first h.first, List.rdropWhile_eq_self_iff]
  intro hne
  rw [h.last _ (List.getLast?_eq_some_getLast hne)]
  exact Bool.false_ne_true

/-- Stripped characters are trimmed. -/
theorem areTrimmed_stripChars (cs : List Char) : AreTrimmed (stripChars cs) := by
  rw [stripChars_eq_rdropWhile]
  constructor
  · intro c hc
    -- what is left at the end begins as it did before blanks were dropped there
    obtain ⟨behind, hbehind⟩ := List.rdropWhile_prefix isBlank (cs.dropWhile isBlank)
    have hfirst := List.head?_dropWhile_not isBlank cs
    rw [← hbehind, List.head?_append, hc, Option.some_or] at hfirst
    exact hfirst
  · intro c hc
    obtain ⟨hne, rfl⟩ := List.mem_getLast?_eq_getLast hc
    exact Bool.eq_false_iff.mpr (List.rdropWhile_last_not isBlank _ hne)

/-- Stripping takes blanks away at the two ends and nothing else. -/
theorem exists_outer_blanks (cs : List Char) :
    ∃ before behind, AreBlank before ∧ AreBlank behind ∧
      cs = before ++ stripChars cs ++ behind := by
  refine ⟨cs.takeWhile isBlank, (cs.dropWhile isBlank).rtakeWhile isBlank, ?_, ?_, ?_⟩
  · exact fun c hc => List.mem_takeWhile_imp hc
  · exact fun c hc => List.mem_rtakeWhile_imp hc
  · rw [stripChars_eq_rdropWhile, List.append_assoc, List.rdropWhile_append_rtakeWhile,
      List.takeWhile_append_dropWhile]

/-- Outer blanks are of no consequence for what is stripped. -/
theorem stripChars_append {before behind : List Char} (hbefore : AreBlank before)
    (hbehind : AreBlank behind) (cs : List Char) :
    stripChars (before ++ cs ++ behind) = stripChars cs := by
  have hdropped : behind.dropWhile isBlank = [] := List.dropWhile_eq_nil_iff.mpr hbehind
  have hreversed : ∀ c ∈ behind.reverse, isBlank c = true :=
    fun c hc => hbehind c (List.mem_reverse.mp hc)
  unfold stripChars
  rw [List.append_assoc, List.dropWhile_append_of_pos hbefore, List.dropWhile_append]
  split
  · rename_i hempty
    rw [hdropped, List.isEmpty_iff.mp hempty]
  · rw [List.reverse_append, List.dropWhile_append_of_pos hreversed]

/-- **Stripping** gives the one trimmed text to which the text adds outer blanks. -/
theorem strip_eq_iff {s t : String} :
    strip s = t ↔ IsTrimmed t ∧ ∃ before behind, AreBlank before ∧ AreBlank behind ∧
      s.toList = before ++ t.toList ++ behind := by
  unfold strip IsTrimmed
  constructor
  · rintro rfl
    rw [String.toList_ofList]
    exact ⟨areTrimmed_stripChars _, exists_outer_blanks _⟩
  · rintro ⟨htrimmed, before, behind, hbefore, hbehind, hs⟩
    rw [hs, stripChars_append hbefore hbehind, stripChars_of_areTrimmed htrimmed,
      String.ofList_toList]

/-- A stripped text is trimmed. -/
theorem isTrimmed_strip (s : String) : IsTrimmed (strip s) := (strip_eq_iff.mp rfl).1

/-- A trimmed text is its own strip. -/
theorem strip_of_isTrimmed {s : String} (h : IsTrimmed s) : strip s = s :=
  strip_eq_iff.mpr ⟨h, [], [], nofun, nofun, by rw [List.nil_append, List.append_nil]⟩

/-- Nothing is left of blank texts, and of no others. -/
theorem strip_eq_empty_iff {s : String} : strip s = "" ↔ isBlankText s = true := by
  rw [strip_eq_iff, isBlankText, List.all_eq_true]
  constructor
  · rintro ⟨-, before, behind, hbefore, hbehind, hs⟩ c hc
    rw [hs, String.toList_empty, List.append_nil, List.mem_append] at hc
    exact hc.elim (hbefore c) (hbehind c)
  · intro hblank
    exact ⟨⟨nofun, nofun⟩, s.toList, [], hblank, nofun, by
      rw [String.toList_empty, List.append_nil, List.append_nil]⟩

/-! ## Lower case -/

/-- The blanks as runs of their own. -/
def blankRuns : List CaseRun := blankRanges.map fun range => ⟨range.1, range.2, 1, 0⟩

/-- The runs of the lower-case table miss the blanks. -/
theorem blankRuns_missed :
    (lowerRuns.all fun run => blankRuns.all fun blank => blank.isMissedBy run) = true := by
  decide +kernel

/-- A number in some ranges lies in one of them. -/
theorem exists_range_of_inRanges {ranges : List (Nat × Nat)} {n : Nat}
    (h : inRanges ranges n = true) : ∃ range ∈ ranges, range.1 ≤ n ∧ n ≤ range.2 := by
  induction ranges with
  | nil => cases h
  | cons range rest ih =>
    obtain ⟨first, last⟩ := range
    rw [inRanges] at h
    split_ifs at h with hbefore hwithin
    · exact ⟨_, List.mem_cons_self, Nat.not_lt.mp hbefore, hwithin⟩
    · obtain ⟨other, hmem, hother⟩ := ih h
      exact ⟨other, List.mem_cons_of_mem _ hmem, hother⟩

/-- What the lower-case table moves a number to is not blank. -/
theorem not_isBlank_of_shifted {n m : Nat} (h : shifted lowerRuns n = some m) :
    isBlank (Char.ofNat m) = false := by
  rw [Bool.eq_false_iff]
  intro hblank
  rcases toNat_ofNat_or m with hnumber | hzero
  · unfold isBlank at hblank
    rw [hnumber] at hblank
    obtain ⟨range, hrange, hfirst, hlast⟩ := exists_range_of_inRanges hblank
    exact not_holds_of_missed blankRuns_missed h (List.mem_map_of_mem hrange)
      ⟨hfirst, hlast, Nat.mod_one _⟩
  · rw [hzero] at hblank
    cases hblank

/-- **Lower-casing makes no character blank** that was none before. -/
theorem isBlank_of_mem_lowerOf {c d : Char} (h : d ∈ lowerOf c) (hblank : isBlank d = true) :
    isBlank c = true := by
  unfold lowerOf at h
  split_ifs at h
  · rcases List.mem_pair.mp h with rfl | rfl
    · cases hblank
    · cases hblank
  · rw [List.mem_singleton] at h
    unfold shiftChar at h
    rcases hshift : shifted lowerRuns c.toNat with _ | n
    · rw [hshift] at h
      subst h
      exact hblank
    · rw [hshift] at h
      subst h
      rw [not_isBlank_of_shifted hshift] at hblank
      cases hblank

/-- A character becomes one or more characters, of which none is blank unless it is blank itself. -/
theorem exists_lowered_first (casedBehind : Bool) (c : Char) (rest : List Char) :
    ∃ first more casedThere,
      lowerFrom casedBehind (c :: rest) = first :: more ++ lowerFrom casedThere rest ∧
        ∀ d ∈ first :: more, isBlank d = true → isBlank c = true := by
  rw [lowerFrom]
  by_cases hsigma : c = 'Σ'
  · rw [if_pos hsigma]
    refine ⟨_, [], _, rfl, ?_⟩
    intro d hd hblank
    rw [List.mem_singleton.mp hd, sigmaBetween] at hblank
    split_ifs at hblank <;> cases hblank
  · rw [if_neg hsigma]
    obtain ⟨first, more, hlowered⟩ : ∃ first more, lowerOf c = first :: more := by
      unfold lowerOf
      split_ifs
      · exact ⟨_, _, rfl⟩
      · exact ⟨_, _, rfl⟩
    rw [hlowered]
    refine ⟨first, more, _, rfl, ?_⟩
    rw [← hlowered]
    exact fun d => isBlank_of_mem_lowerOf

/-- The lower case of characters ends with a blank only if they do. -/
theorem isBlank_getLast?_lowerFrom {casedBehind : Bool} {cs : List Char} {d : Char}
    (h : d ∈ (lowerFrom casedBehind cs).getLast?) (hblank : isBlank d = true) :
    ∃ c ∈ cs.getLast?, isBlank c = true := by
  induction cs generalizing casedBehind with
  | nil => cases h
  | cons c rest ih =>
    obtain ⟨first, more, casedThere, hlowered, hkept⟩ := exists_lowered_first casedBehind c rest
    rw [hlowered] at h
    rcases rest with _ | ⟨next, others⟩
    · rw [lowerFrom, List.append_nil] at h
      exact ⟨c, rfl, hkept d (List.mem_of_getLast? h) hblank⟩
    · -- something is left of the characters behind, and the last of it is the last of all
      obtain ⟨second, further, casedNext, hbehind, -⟩ :=
        exists_lowered_first casedThere next others
      rw [List.getLast?_append_of_ne_nil] at h
      · rw [List.getLast?_cons_cons]
        exact ih h
      · rw [hbehind]
        exact List.cons_ne_nil _ _

/-- **The lower case of a trimmed text** is trimmed. -/
theorem IsTrimmed.lower {s : String} (h : IsTrimmed s) : IsTrimmed (lower s) := by
  unfold IsTrimmed at h ⊢
  rw [toList_lower]
  constructor
  · intro d hd
    rcases hs : s.toList with _ | ⟨c, rest⟩
    · rw [hs] at hd
      cases hd
    · rw [hs] at hd h
      obtain ⟨first, more, casedThere, hlowered, hkept⟩ := exists_lowered_first false c rest
      rw [hlowered] at hd
      cases hd
      rw [h.first c rfl] at hkept
      rw [Bool.eq_false_iff]
      intro hblank
      cases hkept _ List.mem_cons_self hblank
  · intro d hd
    rw [Bool.eq_false_iff]
    intro hblank
    obtain ⟨c, hc, hlast⟩ := isBlank_getLast?_lowerFrom hd hblank
    rw [h.last c hc] at hlast
    cases hlast

end SecretAccess.Text
