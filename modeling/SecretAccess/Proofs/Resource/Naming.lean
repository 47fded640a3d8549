import Mathlib.Computability.Language
import SecretAccess.Proofs.Text.Trimmed
import SecretAccess.Resource.Name

/-!
# What is the name of a secret

A name is checked by one scan over its characters. This module says by position what passes:
letters, digits and dashes, of which neither the first nor the last is a dash
(`ResourceName.IsPlaced`). The same texts are the words of a pattern: a letter or digit, alone or
followed by allowed characters up to another letter or digit (`ResourceName.pattern`).

* `spells_iff`: **the scan** passes characters exactly if they stand as they may;
  `spells_iff_mem_pattern`: it passes **the words of the pattern** and no others.
* `check_eq_iff`: the answer of the check is the one `Verdict` on a value. This relation has one
  rule for each way in which a check can end.
* **`refused_for_first_broken_rule`**: a value passes exactly if it is a text of 1 to 127 characters
  that stand as they may, and any other value is refused for the first rule that it breaks.
-/

namespace SecretAccess.ResourceName

open scoped Computability

/-! ## Letters and digits -/

/-- The code points of the letters and digits of the standard library, which are those of ASCII. -/
theorem isAlphanum_iff {c : Char} :
    c.isAlphanum = true ↔ (65 ≤ c.toNat ∧ c.toNat ≤ 90) ∨ (97 ≤ c.toNat ∧ c.toNat ≤ 122) ∨
      (48 ≤ c.toNat ∧ c.toNat ≤ 57) := by
  have hupper : c.isUpper = true ↔ 65 ≤ c.toNat ∧ c.toNat ≤ 90 := decide_eq_true_iff
  have hlower : c.isLower = true ↔ 97 ≤ c.toNat ∧ c.toNat ≤ 122 :=
    Bool.and_eq_true_iff.trans (and_congr decide_eq_true_iff decide_eq_true_iff)
  have hdigit : c.isDigit = true ↔ 48 ≤ c.toNat ∧ c.toNat ≤ 57 := Char.isDigit_iff_toNat
  rw [← hupper, ← hlower, ← hdigit, ← or_assoc, ← Bool.or_eq_true, ← Bool.or_eq_true]
  rfl

/-- The letters and digits of names are those of the standard library. -/
theorem isAlphanumeric_eq (c : Char) : isAlphanumeric c = c.isAlphanum := by
  rw [Bool.eq_iff_iff, isAlphanum_iff]
  simp only [isAlphanumeric, Bool.or_eq_true, Bool.and_eq_true, decide_eq_true_eq, Char.le_def,
    UInt32.le_iff_toNat_le]
  change (97 ≤ c.toNat ∧ c.toNat ≤ 122 ∨ 65 ≤ c.toNat ∧ c.toNat ≤ 90) ∨
    48 ≤ c.toNat ∧ c.toNat ≤ 57 ↔ _
  omega

/-- Letters and digits are not blank. -/
theorem not_isBlank_of_isAlphanum {c : Char} (h : c.isAlphanum = true) :
    Text.isBlank c = false := by
  rw [isAlphanum_iff] at h
  exact Text.not_isBlank_of_visible (by omega) (by omega)

/-! ## Positions -/

/-- Whether a character may stand inside a name: it is a letter, a digit or a dash. -/
def IsAllowed (c : Char) : Prop := c.isAlphanum = true ∨ c = '-'

instance : DecidablePred IsAllowed := fun c =>
  inferInstanceAs (Decidable (c.isAlphanum = true ∨ c = '-'))

/-- Whether characters stand as they may in a name. -/
structure IsPlaced (cs : List Char) : Prop where
  /-- Every character is a letter, a digit or a dash. -/
  allowed : ∀ c ∈ cs, IsAllowed c
  /-- The first character is a letter or digit. -/
  first : ∀ c ∈ cs.head?, c.isAlphanum = true
  /-- The last character is a letter or digit. -/
  last : ∀ c ∈ cs.getLast?, c.isAlphanum = true

/-- Characters close a name that has come to some character if all of them are allowed, and the last
of all is a letter or digit. -/
theorem closes_iff {last : Char} {cs : List Char} :
    closes last cs = true ↔
      (∀ c ∈ cs, IsAllowed c) ∧ ∀ c ∈ (last :: cs).getLast?, c.isAlphanum = true := by
  induction cs generalizing last with
  | nil => simp [closes, isAlphanumeric_eq]
  | cons c rest ih =>
    -- something follows `last`, so the last of all is the same with and without it
    rw [closes, Bool.and_eq_true, Bool.or_eq_true, decide_eq_true_eq, isAlphanumeric_eq, ih,
      List.forall_mem_cons, List.getLast?_cons_cons, and_assoc]
    rfl

/-- **The scan** passes characters that stand as they may in a name, if there are any. -/
theorem spells_iff {cs : List Char} : spells cs = true ↔ cs ≠ [] ∧ IsPlaced cs := by
  rcases cs with _ | ⟨c, rest⟩
  · exact iff_of_false Bool.false_ne_true fun h => h.1 rfl
  · rw [spells, Bool.and_eq_true, isAlphanumeric_eq, closes_iff]
    constructor
    · rintro ⟨hfirst, hallowed, hlast⟩
      refine ⟨List.cons_ne_nil _ _, List.forall_mem_cons.mpr ⟨Or.inl hfirst, hallowed⟩, ?_, hlast⟩
      rintro _ ⟨⟩
      exact hfirst
    · rintro ⟨-, hplaced⟩
      exact ⟨hplaced.first c rfl, (List.forall_mem_cons.mp hplaced.allowed).2, hplaced.last⟩

/-! ## The pattern -/

/-- The words of one character of a class. -/
def oneOf (belongs : Char → Prop) : Language Char := {word | ∃ c, word = [c] ∧ belongs c}

/-- The words of one letter or digit. -/
def alphanumeric : Language Char := oneOf fun c => c.isAlphanum = true

/-- What may follow the first character of a name: nothing, or allowed characters up to a letter or
digit. -/
def ending : Language Char := 1 + (oneOf IsAllowed)∗ * alphanumeric

/-- The pattern of names: a letter or digit, and what may follow it. -/
def pattern : Language Char := alphanumeric * ending

/-- Characters are in the closure of a class if each of them belongs to it. -/
theorem mem_kstar_oneOf_iff {belongs : Char → Prop} {cs : List Char} :
    cs ∈ (oneOf belongs)∗ ↔ ∀ c ∈ cs, belongs c := by
  rw [Language.mem_kstar]
  constructor
  · rintro ⟨words, rfl, hwords⟩ c hc
    obtain ⟨word, hword, hmem⟩ := List.mem_flatten.mp hc
    obtain ⟨d, rfl, hd⟩ := hwords word hword
    rw [List.mem_singleton.mp hmem]
    exact hd
  · intro h
    refine ⟨cs.map fun c => [c], ?_, ?_⟩
    · rw [← List.flatMap_def, List.flatMap_singleton']
    · intro word hword
      obtain ⟨c, hc, rfl⟩ := List.mem_map.mp hword
      exact ⟨c, rfl, h c hc⟩

/-- Characters are an ending if all of them are allowed and the last, if any, is a letter or
digit. -/
theorem mem_ending_iff {cs : List Char} :
    cs ∈ ending ↔ (∀ c ∈ cs, IsAllowed c) ∧ ∀ c ∈ cs.getLast?, c.isAlphanum = true := by
  rw [ending, Language.mem_add, Language.mem_one, Language.mem_mul]
  constructor
  · rintro (rfl | ⟨front, hfront, _, ⟨last, rfl, hlast⟩, rfl⟩)
    · exact ⟨nofun, nofun⟩
    · rw [mem_kstar_oneOf_iff] at hfront
      rw [List.forall_mem_append, List.forall_mem_singleton, List.getLast?_concat]
      refine ⟨⟨hfront, Or.inl hlast⟩, ?_⟩
      rintro _ ⟨⟩
      exact hlast
  · rintro ⟨hallowed, hlast⟩
    rcases List.eq_nil_or_concat cs with rfl | ⟨front, last, rfl⟩
    · exact Or.inl rfl
    · rw [List.concat_eq_append] at hallowed hlast ⊢
      rw [List.forall_mem_append] at hallowed
      exact Or.inr ⟨front, mem_kstar_oneOf_iff.mpr hallowed.1, [last],
        ⟨last, rfl, hlast last List.getLast?_concat⟩, rfl⟩

/-- Behind a letter or digit, what closes a name is an ending of the pattern. -/
theorem closes_iff_mem_ending {last : Char} (h : last.isAlphanum = true) {cs : List Char} :
    closes last cs = true ↔ cs ∈ ending := by
  rw [closes_iff, mem_ending_iff]
  apply and_congr_right
  intro _
  rcases cs with _ | ⟨c, rest⟩
  · simp [h]
  · rw [List.getLast?_cons_cons]

/-- A word of the pattern is a letter or digit with an ending behind it. -/
theorem cons_mem_pattern_iff {c : Char} {rest : List Char} :
    c :: rest ∈ pattern ↔ c.isAlphanum = true ∧ rest ∈ ending := by
  rw [pattern, Language.mem_mul]
  constructor
  · rintro ⟨_, ⟨first, rfl, hfirst⟩, word, hword, heq⟩
    cases heq
    exact ⟨hfirst, hword⟩
  · rintro ⟨hfirst, hrest⟩
    exact ⟨[c], ⟨c, rfl, hfirst⟩, rest, hrest, rfl⟩

/-- **The scan** passes the words of the pattern. -/
theorem spells_iff_mem_pattern {cs : List Char} : spells cs = true ↔ cs ∈ pattern := by
  rcases cs with _ | ⟨c, rest⟩
  · apply iff_of_false Bool.false_ne_true
    rintro ⟨_, ⟨first, rfl, -⟩, word, -, heq⟩
    cases heq
  · rw [spells, Bool.and_eq_true, isAlphanumeric_eq, cons_mem_pattern_iff]
    apply and_congr_right
    intro hfirst
    exact closes_iff_mem_ending hfirst

/-- **The words of the pattern** are the texts whose characters stand as they may. -/
theorem mem_pattern_iff {cs : List Char} : cs ∈ pattern ↔ cs ≠ [] ∧ IsPlaced cs := by
  rw [← spells_iff_mem_pattern, spells_iff]

/-! ## The check -/

/-- How the check of a value can end. -/
inductive Verdict : Value → Except NameFault String → Prop
  /-- What is no text is missing a name. -/
  | noText {v : Value} (h : v.text? = none) : Verdict v (.error .missing)
  /-- A text of nothing but blanks is missing a name, however long it is. -/
  | blank {s : String} (h : Text.AreBlank s.toList) : Verdict (.text s) (.error .missing)
  /-- A longer text is refused without a look at its characters. -/
  | long {s : String} (hblank : ¬Text.AreBlank s.toList) (hlong : 127 < s.length) :
    Verdict (.text s) (.error .tooLong)
  /-- A text that is not too long may still have a character that is out of place. -/
  | misplaced {s : String} (hblank : ¬Text.AreBlank s.toList) (hlength : s.length ≤ 127)
    (hplaced : ¬IsPlaced s.toList) : Verdict (.text s) (.error .characters)
  /-- Any other text is a name. -/
  | name {s : String} (hne : 1 ≤ s.length) (hlength : s.length ≤ 127)
    (hplaced : IsPlaced s.toList) : Verdict (.text s) (.ok s)

/-- Characters that stand as they may are not all blank, if there are any. -/
theorem IsPlaced.not_areBlank {cs : List Char} (h : IsPlaced cs) (hne : cs ≠ []) :
    ¬Text.AreBlank cs := by
  intro hblank
  rcases cs with _ | ⟨c, rest⟩
  · exact hne rfl
  · have hletter := not_isBlank_of_isAlphanum (h.first c rfl)
    rw [hblank c List.mem_cons_self] at hletter
    cases hletter

/-- A text has characters if its length is at least one. -/
theorem toList_ne_nil_iff {s : String} : s.toList ≠ [] ↔ 1 ≤ s.length := by
  rw [← List.length_pos_iff, String.length_toList]
  rfl

/-- The check of a text asks three questions in turn. -/
theorem check_text (s : String) :
    check (.text s) =
      if Text.isBlankText s = true then .error .missing
      else if 127 < s.length then .error .tooLong
      else if spells s.toList = true then .ok s
      else .error .characters := rfl

/-- The check answers as a verdict says. -/
theorem Verdict.check_eq {v : Value} {answer : Except NameFault String} (h : Verdict v answer) :
    check v = answer := by
  cases h with
  | noText h =>
    unfold check
    rw [h]
  | blank h =>
    rw [check_text, if_pos (Text.isBlankText_iff.mpr h)]
  | long hblank hlong =>
    rw [check_text, if_neg (mt Text.isBlankText_iff.mp hblank), if_pos hlong]
  | misplaced hblank hlength hplaced =>
    rw [check_text, if_neg (mt Text.isBlankText_iff.mp hblank), if_neg (Nat.not_lt.mpr hlength),
      if_neg fun h => hplaced (spells_iff.mp h).2]
  | name hne hlength hplaced =>
    rw [← toList_ne_nil_iff] at hne
    rw [check_text, if_neg (mt Text.isBlankText_iff.mp (hplaced.not_areBlank hne)),
      if_neg (Nat.not_lt.mpr hlength), if_pos (spells_iff.mpr ⟨hne, hplaced⟩)]

/-- There is a verdict on every value. -/
theorem exists_verdict (v : Value) : ∃ answer, Verdict v answer := by
  cases v with
  | text s =>
    by_cases hblank : Text.AreBlank s.toList
    · exact ⟨_, .blank hblank⟩
    · rcases Nat.lt_or_ge 127 s.length with hlong | hlength
      · exact ⟨_, .long hblank hlong⟩
      · by_cases hplaced : IsPlaced s.toList
        · refine ⟨_, .name (toList_ne_nil_iff.mp ?_) hlength hplaced⟩
          intro hnil
          rw [hnil] at hblank
          exact hblank nofun
        · exact ⟨_, .misplaced hblank hlength hplaced⟩
  | _ => exact ⟨_, .noText rfl⟩

/-- **The answer of the check** is the one verdict on a value. -/
theorem check_eq_iff {v : Value} {answer : Except NameFault String} :
    check v = answer ↔ Verdict v answer := by
  constructor
  · -- there is some verdict, and the check answers as it says: the check itself stays closed here
    rintro rfl
    obtain ⟨answer, hverdict⟩ := exists_verdict v
    rw [hverdict.check_eq]
    exact hverdict
  · exact Verdict.check_eq

/-- A value passes as a name if it is a text of 1 to 127 characters that stand as they may; it
passes as it is. -/
theorem check_eq_ok_iff {v : Value} {name : String} :
    check v = .ok name ↔
      v = .text name ∧ 1 ≤ name.length ∧ name.length ≤ 127 ∧ IsPlaced name.toList := by
  rw [check_eq_iff]
  constructor
  · intro h
    cases h with
    | name hne hlength hplaced => exact ⟨rfl, hne, hlength, hplaced⟩
  · rintro ⟨rfl, hne, hlength, hplaced⟩
    exact .name hne hlength hplaced

/-- The names are the words of the pattern of no more than 127 characters. -/
theorem check_eq_ok_iff_mem_pattern {v : Value} {name : String} :
    check v = .ok name ↔ v = .text name ∧ name.length ≤ 127 ∧ name.toList ∈ pattern := by
  rw [check_eq_ok_iff, mem_pattern_iff, toList_ne_nil_iff, and_left_comm (b := name.length ≤ 127)]

/-- The characters of a name are allowed. -/
theorem mem_of_check {name : String} (h : check (.text name) = .ok name) {c : Char}
    (hc : c ∈ name.toList) : IsAllowed c := by
  obtain ⟨-, -, -, hplaced⟩ := check_eq_ok_iff.mp h
  exact hplaced.allowed c hc

/-- A name is missing if a value is no text, or one of blanks only. -/
theorem check_eq_missing_iff {v : Value} :
    check v = .error .missing ↔
      v.text? = none ∨ ∃ s, v = .text s ∧ Text.AreBlank s.toList := by
  rw [check_eq_iff]
  constructor
  · intro h
    cases h with
    | noText h => exact Or.inl h
    | blank h => exact Or.inr ⟨_, rfl, h⟩
  · rintro (h | ⟨s, rfl, h⟩)
    · exact .noText h
    · exact .blank h

/-- A name is too long if it is a text of more than 127 characters, not all of them blank. -/
theorem check_eq_tooLong_iff {v : Value} :
    check v = .error .tooLong ↔
      ∃ s, v = .text s ∧ ¬Text.AreBlank s.toList ∧ 127 < s.length := by
  rw [check_eq_iff]
  constructor
  · intro h
    cases h with
    | long hblank hlong => exact ⟨_, rfl, hblank, hlong⟩
  · rintro ⟨s, rfl, hblank, hlong⟩
    exact .long hblank hlong

/-- The characters of a name are at fault if they are not all blank, no more than 127, and one of
them is out of place. -/
theorem check_eq_characters_iff {v : Value} :
    check v = .error .characters ↔
      ∃ s, v = .text s ∧ ¬Text.AreBlank s.toList ∧ s.length ≤ 127 ∧ ¬IsPlaced s.toList := by
  rw [check_eq_iff]
  constructor
  · intro h
    cases h with
    | misplaced hblank hlength hplaced => exact ⟨_, rfl, hblank, hlength, hplaced⟩
  · rintro ⟨s, rfl, hblank, hlength, hplaced⟩
    exact .misplaced hblank hlength hplaced

/-- No two refusals are worded alike. -/
theorem message_injective : Function.Injective NameFault.message := by
  intro fault other
  cases fault <;> cases other <;> decide

/-- **A value is refused for the first rule that it breaks.** For every value:

1. it passes as a name exactly if it is a text of 1 to 127 characters, each a letter, a digit or a
   dash of ASCII, of which the first and the last are letters or digits;
2. in other words, if it is a text of no more than 127 characters that is a word of the pattern;
3. a name is missing exactly if the value is no text, or one of blanks only;
4. it is too long exactly if it is a text that is not blank and has more than 127 characters;
5. its characters are at fault exactly if it is a text that is not blank, has no more than 127
   characters, and is no name by the first rule;
6. these three refusals differ in their wording. -/
theorem refused_for_first_broken_rule (v : Value) :
    (∀ name, check v = .ok name ↔
        v = .text name ∧ 1 ≤ name.length ∧ name.length ≤ 127 ∧ IsPlaced name.toList) ∧
      (∀ name, check v = .ok name ↔
        v = .text name ∧ name.length ≤ 127 ∧ name.toList ∈ pattern) ∧
      (check v = .error .missing ↔
        v.text? = none ∨ ∃ s, v = .text s ∧ ∀ c ∈ s.toList, Text.isBlank c = true) ∧
      (check v = .error .tooLong ↔
        ∃ s, v = .text s ∧ (∃ c ∈ s.toList, Text.isBlank c = false) ∧ 127 < s.length) ∧
      (check v = .error .characters ↔
        ∃ s, v = .text s ∧ (∃ c ∈ s.toList, Text.isBlank c = false) ∧ s.length ≤ 127 ∧
          ¬IsPlaced s.toList) ∧
      Function.Injective NameFault.message := by
  simp only [← Text.not_areBlank_iff]
  exact ⟨fun _ => check_eq_ok_iff, fun _ => check_eq_ok_iff_mem_pattern, check_eq_missing_iff,
    check_eq_tooLong_iff, check_eq_characters_iff, message_injective⟩

/-- A line feed at the end is out of place, though a look at the last line would not see it. -/
example : check (.text "token\n") = .error .characters := rfl

end SecretAccess.ResourceName
