import Mathlib.Data.Nat.Digits.Defs
import SecretAccess.Numeric.Numeral
import SecretAccess.Proofs.Text.Trimmed

/-!
# Numerals

Which texts are read as whole numbers, and that the text of a whole number is read as that number.
-/

namespace SecretAccess

/-!
## Which texts are whole numbers

A numeral of a whole number is an optional sign and digits, where a single underscore may stand
between two of them. Digits are those of any script: a character counts as `d` if it stands `d`
places behind a zero (`Text.IsDigit`), the scripts may be mixed, and each digit has the value of its
place. There are at most `Number.digitLimit` of them, leading zeros counted.

`Numeral.Denotes` says this of a text and a number without saying how to read it, and
**`Numeral.int?_eq_some_iff`** says that reading gives exactly the number that a text denotes, and
nothing where it denotes none.

Of the numbers of the binary format it is only said which texts give none although they are read:
`Numeral.real?_eq_nan_iff`.
-/

/-! ### Digits -/

namespace Text

/-- Whether a character is the digit `d` of some script. -/
def IsDigit (c : Char) (d : Nat) : Prop := d < 10 ∧ ∃ start ∈ digitZeros, c.toNat = start + d

/-- A number is found in runs of ten, which ascend and do not overlap, exactly if it lies in one. -/
theorem digitIn_eq_some_iff {starts : List Nat} (h : starts.Pairwise fun a b => a + 10 ≤ b)
    {n d : Nat} : digitIn starts n = some d ↔ d < 10 ∧ ∃ start ∈ starts, n = start + d := by
  induction starts with
  | nil => exact iff_of_false nofun fun h => by obtain ⟨-, start, hstart, -⟩ := h; cases hstart
  | cons first rest ih =>
    obtain ⟨hfirst, hrest⟩ := List.pairwise_cons.mp h
    simp only [digitIn, List.mem_cons, exists_eq_or_imp]
    by_cases hbefore : n < first
    · rw [if_pos hbefore]
      refine iff_of_false nofun ?_
      rintro ⟨-, rfl | ⟨start, hstart, rfl⟩⟩
      · omega
      · have hbehind := hfirst start hstart
        omega
    · rw [if_neg hbefore]
      by_cases hwithin : n < first + 10
      · rw [if_pos hwithin, Option.some.injEq]
        constructor
        · rintro rfl
          exact ⟨by omega, Or.inl (by omega)⟩
        · rintro ⟨-, rfl | ⟨start, hstart, rfl⟩⟩
          · omega
          · have hbehind := hfirst start hstart
            omega
      · rw [if_neg hwithin, ih hrest]
        refine and_congr_right fun hd => (or_iff_right ?_).symm
        omega

/-- The zeros of the scripts ascend, with room for ten digits each. -/
theorem digitZeros_apart : digitZeros.Pairwise fun a b => a + 10 ≤ b := by
  decide +kernel

/-- A character is read as the digit that it is. -/
theorem digit?_eq_some_iff {c : Char} {d : Nat} : digit? c = some d ↔ IsDigit c d :=
  digitIn_eq_some_iff digitZeros_apart

end Text

namespace Numeral

open Text (IsDigit digit? digit?_eq_some_iff)

/-- Whether characters spell digits: one digit, or a digit before others, with an underscore between
or without. -/
inductive Spells : List Char → List Nat → Prop
  /-- A single digit. -/
  | one {c : Char} {d : Nat} (h : IsDigit c d) : Spells [c] [d]
  /-- A digit right before others. -/
  | before {c : Char} {d : Nat} {cs : List Char} {ds : List Nat} (h : IsDigit c d)
      (rest : Spells cs ds) : Spells (c :: cs) (d :: ds)
  /-- A digit before others, with an underscore between. -/
  | apart {c : Char} {d : Nat} {cs : List Char} {ds : List Nat} (h : IsDigit c d)
      (rest : Spells cs ds) : Spells (c :: '_' :: cs) (d :: ds)

/-- Whether characters can stand behind a digit and add further digits: there is nothing, or digits
are spelled, with an underscore before them or without. -/
def Continues (cs : List Char) (ds : List Nat) : Prop :=
  cs = [] ∧ ds = [] ∨ Spells cs ds ∨ ∃ rest, cs = '_' :: rest ∧ Spells rest ds

/-- Digits are spelled by a first one and what continues it. -/
theorem spells_cons_iff {c : Char} {cs : List Char} {ds : List Nat} :
    Spells (c :: cs) ds ↔ ∃ d rest, ds = d :: rest ∧ IsDigit c d ∧ Continues cs rest := by
  unfold Continues
  constructor
  · rintro (⟨h⟩ | ⟨h, hrest⟩ | ⟨h, hrest⟩)
    · exact ⟨_, _, rfl, h, Or.inl ⟨rfl, rfl⟩⟩
    · exact ⟨_, _, rfl, h, Or.inr (Or.inl hrest)⟩
    · exact ⟨_, _, rfl, h, Or.inr (Or.inr ⟨_, rfl, hrest⟩)⟩
  · rintro ⟨d, rest, rfl, h, ⟨rfl, rfl⟩ | hrest | ⟨behind, rfl, hrest⟩⟩
    · exact .one h
    · exact .before h hrest
    · exact .apart h hrest

/-- No digits are spelled by characters that start with something else. -/
theorem not_spells_of_digit?_eq_none {c : Char} (h : digit? c = none) (cs : List Char)
    (ds : List Nat) : ¬Spells (c :: cs) ds := by
  rw [spells_cons_iff]
  rintro ⟨d, rest, -, hd, -⟩
  rw [digit?_eq_some_iff.mpr hd] at h
  cases h

/-- Behind an underscore digits have to be spelled. -/
theorem continues_underscore_iff {cs : List Char} {ds : List Nat} :
    Continues ('_' :: cs) ds ↔ Spells cs ds := by
  unfold Continues
  constructor
  · rintro (⟨h, -⟩ | h | ⟨rest, hrest, h⟩)
    · cases h
    · exact absurd h (not_spells_of_digit?_eq_none (by decide) cs ds)
    · cases hrest
      exact h
  · exact fun h => Or.inr (Or.inr ⟨cs, rfl, h⟩)

/-- Any other character that continues digits is one. -/
theorem continues_cons_iff {c : Char} (hc : c ≠ '_') {cs : List Char} {ds : List Nat} :
    Continues (c :: cs) ds ↔ Spells (c :: cs) ds := by
  unfold Continues
  constructor
  · rintro (⟨h, -⟩ | h | ⟨rest, hrest, -⟩)
    · cases h
    · exact h
    · cases hrest
      exact absurd rfl hc
  · exact fun h => Or.inr (Or.inl h)

/-! ### Reading digits -/

/-- Digits are read one after another. -/
theorem digits?_cons_eq_some_iff {c : Char} {cs : List Char} {ds : List Nat} :
    digits? (c :: cs) = some ds ↔
      ∃ d rest, ds = d :: rest ∧ IsDigit c d ∧ digitsAfterDigit cs = some rest := by
  rw [digits?]
  simp only [Option.pure_def, Option.bind_eq_bind, Option.bind_eq_some_iff, Option.some.injEq,
    digit?_eq_some_iff]
  constructor
  · rintro ⟨d, hd, rest, hrest, rfl⟩
    exact ⟨d, rest, rfl, hd, hrest⟩
  · rintro ⟨d, rest, rfl, hd, hrest⟩
    exact ⟨d, hd, rest, hrest, rfl⟩

/-- Behind a digit any character but an underscore is read like the first of digits. -/
theorem digitsAfterDigit_cons {c : Char} (hc : c ≠ '_') (cs : List Char) :
    digitsAfterDigit (c :: cs) = digits? (c :: cs) := by
  rw [digitsAfterDigit, digits?]
  · exact fun he => absurd he hc
  · exact fun _ _ he => absurd he hc

/-- What is read behind a digit continues it. -/
theorem digitsAfterDigit_eq_some_iff {cs : List Char} {ds : List Nat} :
    digitsAfterDigit cs = some ds ↔ Continues cs ds := by
  induction cs using digitsAfterDigit.induct generalizing ds with
  | case1 =>
    rw [digitsAfterDigit, Option.some.injEq]
    constructor
    · rintro rfl
      exact Or.inl ⟨rfl, rfl⟩
    · rintro (⟨-, rfl⟩ | h | ⟨rest, h, -⟩)
      · rfl
      · cases h
      · cases h
  | case2 =>
    rw [digitsAfterDigit, continues_underscore_iff]
    exact iff_of_false nofun nofun
  | case3 c rest ih =>
    rw [continues_underscore_iff, spells_cons_iff]
    simp only [← ih]
    exact digits?_cons_eq_some_iff
  | case4 c rest hend hbehind ih =>
    have hc : c ≠ '_' := by
      rintro rfl
      rcases rest with _ | ⟨next, more⟩
      · exact hend rfl rfl
      · exact hbehind next more rfl rfl
    rw [digitsAfterDigit_cons hc, continues_cons_iff hc, spells_cons_iff]
    simp only [← ih]
    exact digits?_cons_eq_some_iff

/-- Exactly those digits are read that characters spell. -/
theorem digits?_eq_some_iff {cs : List Char} {ds : List Nat} :
    digits? cs = some ds ↔ Spells cs ds := by
  rcases cs with _ | ⟨c, cs⟩
  · exact iff_of_false nofun nofun
  · rw [digits?_cons_eq_some_iff, spells_cons_iff]
    simp only [digitsAfterDigit_eq_some_iff]

/-- The number that digits make up, the highest first, each of them with the value of its place. -/
def magnitude (ds : List Nat) : Nat := Nat.ofDigits 10 ds.reverse

/-- Counting the digits up gives the number that they make up. -/
theorem ofDigits_eq_magnitude (ds : List Nat) : ofDigits ds = magnitude ds := by
  unfold magnitude
  rw [Nat.ofDigits_eq_foldr, List.foldr_reverse]
  unfold ofDigits
  congr 1
  funext n d
  exact Nat.add_comm _ _

/-! ### Reading whole numbers -/

/-- Whether a text is a numeral of a whole number: it has digits behind a sign or none, not too
many, and they make up the number. -/
def Denotes (s : String) (i : Int) : Prop :=
  ∃ cs ds, Spells cs ds ∧ ds.length ≤ Number.digitLimit ∧
    ((s.toList = cs ∨ s.toList = '+' :: cs) ∧ i = magnitude ds ∨
      s.toList = '-' :: cs ∧ i = -magnitude ds)

/-- What is read as a sign, and what is left. -/
theorem splitSign_cases (cs : List Char) :
    (∃ rest, splitSign cs = (true, rest) ∧ cs = '-' :: rest) ∨
      ∃ rest, splitSign cs = (false, rest) ∧ (cs = rest ∨ cs = '+' :: rest) := by
  fun_cases splitSign cs with
  | case1 rest => exact Or.inl ⟨rest, rfl, rfl⟩
  | case2 rest => exact Or.inr ⟨rest, rfl, Or.inr rfl⟩
  | case3 => exact Or.inr ⟨cs, rfl, Or.inl rfl⟩

/-- There is no sign before spelled digits. -/
theorem splitSign_of_spells {cs : List Char} {ds : List Nat} (h : Spells cs ds) :
    splitSign cs = (false, cs) := by
  rw [splitSign]
  · rintro rest rfl
    exact not_spells_of_digit?_eq_none (by decide) _ _ h
  · rintro rest rfl
    exact not_spells_of_digit?_eq_none (by decide) _ _ h

/-- Reading a whole number is reading its digits behind the sign. -/
theorem int?_of_splitSign {s : String} {negative : Bool} {unsigned : List Char}
    (h : splitSign s.toList = (negative, unsigned)) {i : Int} :
    int? s = some i ↔ ∃ ds, Spells unsigned ds ∧ ds.length ≤ Number.digitLimit ∧
      i = if negative then -(magnitude ds : Int) else magnitude ds := by
  unfold int?
  simp only [h, ← digits?_eq_some_iff, ← ofDigits_eq_magnitude]
  rcases digits? unsigned with _ | ds
  · exact iff_of_false nofun nofun
  · simp only [Option.some.injEq, exists_eq_left']
    by_cases hlimit : Number.digitLimit < ds.length
    · rw [if_pos hlimit]
      exact iff_of_false nofun fun h => by omega
    · rw [if_neg hlimit, Option.some.injEq, and_iff_right (Nat.not_lt.mp hlimit)]
      exact eq_comm

/-- **Reading whole numbers.** A text is read as a whole number exactly if it denotes it. -/
theorem int?_eq_some_iff {s : String} {i : Int} : int? s = some i ↔ Denotes s i := by
  unfold Denotes
  constructor
  · intro h
    rcases splitSign_cases s.toList with ⟨rest, hsplit, hs⟩ | ⟨rest, hsplit, hs⟩
    · obtain ⟨ds, hspells, hlimit, hi⟩ := (int?_of_splitSign hsplit).mp h
      exact ⟨rest, ds, hspells, hlimit, Or.inr ⟨hs, hi⟩⟩
    · obtain ⟨ds, hspells, hlimit, hi⟩ := (int?_of_splitSign hsplit).mp h
      exact ⟨rest, ds, hspells, hlimit, Or.inl ⟨hs, hi⟩⟩
  · rintro ⟨cs, ds, hspells, hlimit, ⟨hs | hs, hi⟩ | ⟨hs, hi⟩⟩
    · have hsplit : splitSign s.toList = (false, cs) := by rw [hs, splitSign_of_spells hspells]
      exact (int?_of_splitSign hsplit).mpr ⟨ds, hspells, hlimit, hi⟩
    · have hsplit : splitSign s.toList = (false, cs) := by rw [hs, splitSign]
      exact (int?_of_splitSign hsplit).mpr ⟨ds, hspells, hlimit, hi⟩
    · have hsplit : splitSign s.toList = (true, cs) := by rw [hs, splitSign]
      exact (int?_of_splitSign hsplit).mpr ⟨ds, hspells, hlimit, hi⟩

/-! ### Reading what is no number -/

/-- Whether a text is the word for no number, in any ASCII letter case and behind a sign or none. -/
def NamesNaN (s : String) : Prop :=
  ∃ cs, String.ofList (cs.map asciiLower) = "nan" ∧
    (s.toList = cs ∨ s.toList = '+' :: cs ∨ s.toList = '-' :: cs)

/-- Digits are never read as the value for no number. -/
theorem ofDecimal_ne_nan (negative : Bool) (digits : List Nat) (exponent : Int) :
    ofDecimal negative digits exponent ≠ .nan := by
  unfold ofDecimal
  dsimp only
  split
  · nofun
  · split
    · nofun
    · unfold Binary64.ofRatio
      dsimp only
      split <;> nofun

/-- Behind the sign, the word for no number is all that is read as that. -/
theorem real?_eq_nan_of_splitSign {s : String} {negative : Bool} {unsigned : List Char}
    (h : splitSign s.toList = (negative, unsigned)) :
    real? s = some .nan ↔ String.ofList (unsigned.map asciiLower) = "nan" := by
  unfold real?
  simp only [h]
  rcases hword : word? unsigned with _ | magnitude
  · refine iff_of_false ?_ ?_
    · intro hread
      obtain ⟨⟨whole, fraction⟩, -, hread⟩ := Option.bind_eq_some_iff.mp hread
      obtain ⟨exponent, -, hread⟩ := Option.bind_eq_some_iff.mp hread
      exact ofDecimal_ne_nan _ _ _ (Option.some.inj hread)
    · intro hnan
      unfold word? at hword
      rw [hnan] at hword
      cases hword
  · unfold word? at hword
    dsimp only at hword ⊢
    split at hword
    · -- the words for infinity
      rename_i hinfinite
      cases hword
      refine iff_of_false nofun ?_
      intro hnan
      rw [hnan] at hinfinite
      revert hinfinite
      decide
    · split at hword
      · rename_i hnan
        cases hword
        exact iff_of_true rfl hnan
      · cases hword

/-- There is no sign in the word for no number. -/
theorem splitSign_of_nan {cs : List Char} (h : String.ofList (cs.map asciiLower) = "nan") :
    splitSign cs = (false, cs) := by
  rw [splitSign]
  · rintro rest rfl
    rw [← String.toList_inj, String.toList_ofList, List.map_cons] at h
    exact absurd (List.cons.inj h).1 (by decide)
  · rintro rest rfl
    rw [← String.toList_inj, String.toList_ofList, List.map_cons] at h
    exact absurd (List.cons.inj h).1 (by decide)

/-- **Reading what is no number.** A text is read as the value for no number exactly if it is the
word for that. -/
theorem real?_eq_nan_iff {s : String} : real? s = some .nan ↔ NamesNaN s := by
  unfold NamesNaN
  constructor
  · intro h
    rcases splitSign_cases s.toList with ⟨rest, hsplit, hs⟩ | ⟨rest, hsplit, hs⟩
    · exact ⟨rest, (real?_eq_nan_of_splitSign hsplit).mp h, .inr (.inr hs)⟩
    · exact ⟨rest, (real?_eq_nan_of_splitSign hsplit).mp h, hs.imp_right .inl⟩
  · rintro ⟨cs, hnan, hs | hs | hs⟩
    · exact (real?_eq_nan_of_splitSign (by rw [hs, splitSign_of_nan hnan])).mpr hnan
    · exact (real?_eq_nan_of_splitSign (by rw [hs, splitSign])).mpr hnan
    · exact (real?_eq_nan_of_splitSign (by rw [hs, splitSign])).mpr hnan

end Numeral

/-!
## Whole numbers in decimal text

Writing a whole number and reading it back, within the digit limit. **`Numeral.int?_signed_digits`**
says what ASCII digits after an optional minus sign are read as; `decimalText` writes such texts, so

* a whole number of at most `Number.digitLimit` digits is read back from its decimal text
  (`Numeral.int?_decimalText`), and
* that text has no blanks to strip (`strip_decimalText`).
-/

/-! ### Texts without blanks -/

namespace Text

/-- A text in which no character is blank has nothing to strip. -/
theorem strip_of_not_blank {s : String} (h : ∀ c ∈ s.toList, isBlank c = false) : strip s = s :=
  strip_of_isTrimmed ⟨fun c hc => h c (List.mem_of_mem_head? hc),
    fun c hc => h c (List.mem_of_mem_getLast? hc)⟩

end Text

/-! ### Digits -/

/-- Where the ASCII digits stand among the characters. -/
theorem Text.toNat_of_isDigit {c : Char} (h : c.isDigit = true) : 48 ≤ c.toNat ∧ c.toNat ≤ 57 := by
  simp only [Char.isDigit, Bool.and_eq_true, decide_eq_true_eq, UInt32.le_iff_toNat_le] at h
  exact h

/-- The value of an ASCII digit is its distance from zero. -/
theorem Text.digit?_of_isDigit {c : Char} (h : c.isDigit = true) :
    digit? c = some (c.toNat - '0'.toNat) := by
  obtain ⟨hlow, hhigh⟩ := toNat_of_isDigit h
  unfold digit? digitZeros digitIn
  rw [if_neg (by omega), if_pos (by omega)]
  rfl

/-- ASCII digits are not blank. -/
theorem Text.not_isBlank_of_isDigit {c : Char} (h : c.isDigit = true) : isBlank c = false := by
  obtain ⟨hlow, hhigh⟩ := toNat_of_isDigit h
  exact not_isBlank_of_visible (by omega) (by omega)

namespace Numeral

/-- ASCII digits are read one by one. -/
theorem digitsAfterDigit_of_isDigit {cs : List Char} (h : ∀ c ∈ cs, c.isDigit = true) :
    digitsAfterDigit cs = some (cs.map fun c => c.toNat - '0'.toNat) := by
  induction cs with
  | nil => rfl
  | cons c rest ih =>
    have hc := h c List.mem_cons_self
    have hunderscore : c ≠ '_' := by
      rintro rfl
      cases hc
    rw [digitsAfterDigit, Text.digit?_of_isDigit hc, ih fun d hd => h d (List.mem_cons_of_mem _ hd)]
    · rfl
    · exact fun he => absurd he hunderscore
    · exact fun _ _ he => absurd he hunderscore

/-- Any ASCII digits are the digits of a numeral. -/
theorem digits?_of_isDigit {cs : List Char} (hne : cs ≠ []) (h : ∀ c ∈ cs, c.isDigit = true) :
    digits? cs = some (cs.map fun c => c.toNat - '0'.toNat) := by
  rcases cs with _ | ⟨c, rest⟩
  · exact absurd rfl hne
  · rw [digits?, Text.digit?_of_isDigit (h c List.mem_cons_self),
      digitsAfterDigit_of_isDigit fun d hd => h d (List.mem_cons_of_mem _ hd)]
    rfl

/-- Before ASCII digits there is no sign but a minus sign that is written. -/
theorem splitSign_signed_digits (negative : Bool) {cs : List Char} (hne : cs ≠ [])
    (h : ∀ c ∈ cs, c.isDigit = true) :
    splitSign ((if negative then ['-'] else []) ++ cs) = (negative, cs) := by
  rcases negative with _ | _
  · rcases cs with _ | ⟨c, rest⟩
    · exact absurd rfl hne
    · have hc := h c List.mem_cons_self
      show splitSign (c :: rest) = (false, c :: rest)
      rw [splitSign]
      · intro other he
        cases he
        cases hc
      · intro other he
        cases he
        cases hc
  · rfl

/-- Digits count as in the standard library. -/
theorem ofDigits_map (cs : List Char) :
    ofDigits (cs.map fun c => c.toNat - '0'.toNat) = Nat.ofDigitChars 10 cs 0 := by
  unfold ofDigits Nat.ofDigitChars
  rw [List.foldl_map]

/-- **ASCII digits, after a minus sign or none, are read as the number that they stand for**,
provided that they are not too many. -/
theorem int?_signed_digits (negative : Bool) {cs : List Char} (hne : cs ≠ [])
    (h : ∀ c ∈ cs, c.isDigit = true) (hlimit : cs.length ≤ Number.digitLimit) :
    int? (String.ofList ((if negative then ['-'] else []) ++ cs)) =
      some (if negative then -(Nat.ofDigitChars 10 cs 0 : Int) else Nat.ofDigitChars 10 cs 0) := by
  have hlength : ¬Number.digitLimit < (cs.map fun c => c.toNat - '0'.toNat).length := by
    rw [List.length_map]
    omega
  unfold int?
  rw [String.toList_ofList, splitSign_signed_digits negative hne h]
  simp only [digits?_of_isDigit hne h, hlength, if_false, ofDigits_map]

end Numeral

end SecretAccess
