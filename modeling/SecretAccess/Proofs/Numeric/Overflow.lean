import SecretAccess.Numeric.Number

/-!
# Whole numbers too large for the binary format or for a text

A whole number is rounded to the binary format before it meets a number of that format. This file
says when it does not fit: **`Binary64.isInfinite_ofInt_iff`**, from `Binary64.overflowBound` on.
The bound lies halfway between the largest value of the format and `2^1024`, which is even and so
takes the tie.

The magnitudes fall into three stretches. Up to half of the limit the rounding error is far too
small to matter; from the limit on, rounding loses nothing of the leading bit; between the two the
format has one fixed spacing, and `Binary64.nearestEven_lt_iff` decides.
`Number.int_sub_eq_error_iff` says what this means for a difference.

The text of a number has no such bound but the digit limit (`Number.text_eq_error_iff`).
-/

namespace SecretAccess

namespace Binary64

/-! ## Rounding to a whole number -/

/-- The whole number nearest to a ratio is next to it. -/
theorem nearestEven_bounds (num den : Nat) :
    num / den ≤ nearestEven num den ∧ nearestEven num den ≤ num / den + 1 := by
  unfold nearestEven
  dsimp only
  split
  · omega
  · split
    · omega
    · omega

/-- A ratio rounds to less than an even number exactly if it is more than a half below it. -/
theorem nearestEven_lt_iff {num den half : Nat} (hden : 0 < den) :
    nearestEven num den < 2 * half ↔ 2 * num + den < 2 * (2 * half * den) := by
  have hnum : num / den * den + num % den = num := Nat.div_add_mod' num den
  have hrest : num % den < den := Nat.mod_lt num hden
  obtain ⟨hlow, hhigh⟩ := nearestEven_bounds num den
  rcases Nat.lt_trichotomy (num / den + 1) (2 * half) with hbelow | hnext | habove
  · have hscaled : (num / den + 2) * den ≤ 2 * half * den := Nat.mul_le_mul_right den hbelow
    rw [Nat.add_mul] at hscaled
    exact iff_of_true (by omega) (by omega)
  · -- The last whole number below the even one is odd, so the tie goes up.
    rw [← hnext, Nat.add_mul]
    unfold nearestEven
    dsimp only
    split
    · exact iff_of_true (by omega) (by omega)
    · split
      · exact iff_of_false (by omega) (by omega)
      · exact iff_of_false (by omega) (by omega)
  · have hscaled : 2 * half * den ≤ num / den * den := Nat.mul_le_mul_right den (by omega)
    exact iff_of_false (by omega) (by omega)

/-! ## Rounding to 53 bits

A limit `2^(e + 54)` for any `e`; the format has it at `e = 2044`. -/

section limit

variable {e units : Nat}

/-- A power of two splits at any exponent. -/
theorem pow_split (m n : Nat) : Nat.pow 2 (m + n) = Nat.pow 2 m * Nat.pow 2 n := Nat.pow_add 2 m n

/-- In the binade below the limit, neighbours are `2^(e + 1)` apart. -/
theorem spacing_of_binade (hlow : Nat.pow 2 (e + 53) ≤ units) (hhigh : units < Nat.pow 2 (e + 54)) :
    spacing units = 2 * Nat.pow 2 e := by
  have hne : units ≠ 0 := Nat.ne_of_gt (Nat.lt_of_lt_of_le (Nat.pow_pos (by decide)) hlow)
  have hge : e + 53 ≤ units.log2 := (Nat.le_log2 hne).mpr hlow
  have hlt : units.log2 < e + 54 := (Nat.log2_lt hne).mpr hhigh
  unfold spacing
  have hlog : units.log2 - 52 = e + 1 := by omega
  rw [hlog, pow_split, Nat.mul_comm]

/-- Below that binade they are at most half as far apart. -/
theorem spacing_le_of_lt (h : units < Nat.pow 2 (e + 53)) : spacing units ≤ Nat.pow 2 e := by
  unfold spacing
  apply Nat.pow_le_pow_right (by decide)
  by_cases hne : units = 0
  · rw [hne, Nat.log2_zero]
    omega
  · have hlt : units.log2 < e + 53 := (Nat.log2_lt hne).mpr h
    omega

/-- From the limit on, rounding does not go below the limit. -/
theorem limit_le_of_le (h : Nat.pow 2 (e + 54) ≤ units) :
    Nat.pow 2 (e + 54) ≤ nearestEven units (spacing units) * spacing units := by
  have hne : units ≠ 0 := Nat.ne_of_gt (Nat.lt_of_lt_of_le (Nat.pow_pos (by decide)) h)
  have hlog : e + 54 ≤ units.log2 := (Nat.le_log2 hne).mpr h
  have hspacing : 0 < spacing units := Nat.pow_pos (by decide)
  -- The leading bit of the magnitude is a multiple of the spacing.
  have hsplit : Nat.pow 2 units.log2 = Nat.pow 2 52 * spacing units := by
    unfold spacing
    rw [← pow_split]
    congr 1
    omega
  have hleading : Nat.pow 2 units.log2 ≤ units := Nat.log2_self_le hne
  rw [hsplit] at hleading
  have hquotient : Nat.pow 2 52 ≤ units / spacing units :=
    (Nat.le_div_iff_mul_le hspacing).mpr hleading
  calc Nat.pow 2 (e + 54) ≤ Nat.pow 2 units.log2 := Nat.pow_le_pow_right (by decide) hlog
    _ = Nat.pow 2 52 * spacing units := hsplit
    _ ≤ units / spacing units * spacing units := Nat.mul_le_mul_right _ hquotient
    _ ≤ nearestEven units (spacing units) * spacing units :=
      Nat.mul_le_mul_right _ (nearestEven_bounds units _).1

/-- **When rounding stays below the limit**: while the magnitude is more than half of the last
spacing below it. -/
theorem rounded_lt_limit_iff :
    nearestEven units (spacing units) * spacing units < Nat.pow 2 (e + 54) ↔
      units < (Nat.pow 2 54 - 1) * Nat.pow 2 e := by
  have hstep : 0 < Nat.pow 2 e := Nat.pow_pos (by decide)
  have hlimit : Nat.pow 2 (e + 54) = 18014398509481984 * Nat.pow 2 e := by
    rw [pow_split, Nat.mul_comm]
  have hmiddle : Nat.pow 2 (e + 53) = 9007199254740992 * Nat.pow 2 e := by
    rw [pow_split, Nat.mul_comm]
  have hbound : (Nat.pow 2 54 - 1) * Nat.pow 2 e = 18014398509481983 * Nat.pow 2 e := rfl
  rw [hbound]
  rcases Nat.lt_or_ge units (Nat.pow 2 (e + 53)) with hsmall | hlarge
  · have hspacing := spacing_le_of_lt hsmall
    have hbelow : units / spacing units * spacing units ≤ units := Nat.div_mul_le_self _ _
    have hrounded : nearestEven units (spacing units) * spacing units ≤
        (units / spacing units + 1) * spacing units :=
      Nat.mul_le_mul_right _ (nearestEven_bounds units _).2
    rw [Nat.add_mul] at hrounded
    exact iff_of_true (by omega) (by omega)
  · rcases Nat.lt_or_ge units (Nat.pow 2 (e + 54)) with hbinade | hbeyond
    · rw [spacing_of_binade hlarge hbinade]
      have heven := @nearestEven_lt_iff units (2 * Nat.pow 2 e) 4503599627370496 (by omega)
      have hscaled : Nat.pow 2 (e + 54) = 2 * 4503599627370496 * (2 * Nat.pow 2 e) := by
        rw [hlimit]
        omega
      rw [hscaled, Nat.mul_lt_mul_right (by omega), heven]
      constructor
      · intro h
        omega
      · intro h
        omega
    · have hrounded := limit_le_of_le hbeyond
      exact iff_of_false (by omega) (by omega)

/-- The same for whole numbers of units of `2^k`. -/
theorem rounded_mul_lt_limit_iff {unit limit bound b k n : Nat} (hunit : unit = Nat.pow 2 k)
    (hlimit : limit = Nat.pow 2 n) (hbound : bound = (Nat.pow 2 54 - 1) * Nat.pow 2 b)
    (hn : n = b + k + 54) (m : Nat) :
    nearestEven (m * unit) (spacing (m * unit)) * spacing (m * unit) < limit ↔ m < bound := by
  have hpos : 0 < unit := by
    rw [hunit]
    exact Nat.pow_pos (by decide)
  rw [hlimit, hn, rounded_lt_limit_iff, pow_split b k, ← Nat.mul_assoc, ← hbound, ← hunit]
  exact Nat.mul_lt_mul_right hpos

end limit

/-! ## Whole numbers -/

/-- The least magnitude of a whole number that does not fit the format. -/
def overflowBound : Nat := (Nat.pow 2 54 - 1) * Nat.pow 2 970

/-- Whether a value is beyond all finite ones. -/
def IsInfinite (x : Binary64) : Prop := ∃ negative, x = .infinite negative

/-- The magnitudes that stay below the limit of the format. -/
theorem rounded_lt_unitsLimit_iff (m : Nat) :
    nearestEven (m * unitsPerOne) (spacing (m * unitsPerOne)) * spacing (m * unitsPerOne) <
        unitsLimit ↔
      m < overflowBound := by
  have hunit : unitsPerOne = Nat.pow 2 1074 := by decide +kernel
  have hlimit : unitsLimit = Nat.pow 2 2098 := by decide +kernel
  have hbound : overflowBound = (Nat.pow 2 54 - 1) * Nat.pow 2 970 := by decide +kernel
  exact rounded_mul_lt_limit_iff hunit hlimit hbound rfl m

/-- **Which whole numbers do not fit**: those whose magnitude reaches the bound. -/
theorem isInfinite_ofInt_iff (i : Int) : (ofInt i).IsInfinite ↔ overflowBound ≤ i.natAbs := by
  have hmagnitude : (i * unitsPerOne).natAbs = i.natAbs * unitsPerOne := by
    rw [Int.natAbs_mul, Int.natAbs_natCast]
  have hrounds := rounded_lt_unitsLimit_iff i.natAbs
  unfold ofInt ofUnits ofRatio IsInfinite
  simp only [hmagnitude, Nat.div_one, Nat.one_mul]
  by_cases hfits : i.natAbs < overflowBound
  · rw [if_pos (hrounds.mpr hfits)]
    refine iff_of_false ?_ (Nat.not_le.mpr hfits)
    rintro ⟨negative, h⟩
    cases h
  · rw [if_neg (fun h => hfits (hrounds.mp h))]
    exact iff_of_true ⟨_, rfl⟩ (Nat.not_lt.mp hfits)

end Binary64

/-! ## Differences -/

namespace Number

/-- A whole number has no counterpart in the binary format exactly from the bound on. -/
theorem toBinary_int_eq_error_iff {i : Int} {fault : Fault} :
    (int i).toBinary = .error fault ↔
      fault = .tooLargeForBinary ∧ Binary64.overflowBound ≤ i.natAbs := by
  rw [← Binary64.isInfinite_ofInt_iff]
  unfold toBinary Binary64.IsInfinite
  dsimp only
  split
  · rename_i negative hinfinite
    constructor
    · intro h
      cases h
      exact ⟨rfl, negative, hinfinite⟩
    · rintro ⟨rfl, -⟩
      rfl
  · rename_i hfinite
    constructor
    · intro h
      cases h
    · rintro ⟨-, negative, h⟩
      exact absurd h (hfinite negative)

/-- **When a whole number has no difference from another number**: the other is in the binary
format, and the whole number does not fit it. -/
theorem int_sub_eq_error_iff {i : Int} {n : Number} {fault : Fault} :
    (int i).sub n = .error fault ↔
      (∃ x, n = .real x) ∧ fault = .tooLargeForBinary ∧ Binary64.overflowBound ≤ i.natAbs := by
  rw [← toBinary_int_eq_error_iff]
  cases n with
  | int j => exact iff_of_false (fun h => by cases h) (fun ⟨⟨x, h⟩, _⟩ => by cases h)
  | flag b => exact iff_of_false (fun h => by cases h) (fun ⟨⟨x, h⟩, _⟩ => by cases h)
  | real x =>
    show ((int i).toBinary >>= fun a => (real x).toBinary >>= fun b =>
      pure (real (a.sub b))) = .error fault ↔ _
    rcases hi : (int i).toBinary with other | a
    · constructor
      · intro h
        cases h
        exact ⟨⟨x, rfl⟩, rfl⟩
      · rintro ⟨-, h⟩
        cases h
        rfl
    · exact iff_of_false (fun h => by cases h) (fun ⟨_, h⟩ => by cases h)

/-- Only a whole number beyond the digit limit has no text. -/
theorem text_eq_error_iff {n : Number} {fault : Fault} :
    n.text = .error fault ↔ ∃ i, n = .int i ∧ isVast i = true ∧ fault = .tooManyDigits := by
  cases n with
  | int i =>
    show boundedText i = .error fault ↔ _
    unfold boundedText
    split
    · rename_i hvast
      constructor
      · rintro ⟨⟩
        exact ⟨i, rfl, hvast, rfl⟩
      · rintro ⟨_, -, -, rfl⟩
        rfl
    · rename_i hshort
      refine iff_of_false nofun ?_
      rintro ⟨_, ⟨⟩, hvast, -⟩
      exact hshort hvast
  | real x => exact iff_of_false nofun (fun ⟨_, h, _⟩ => by cases h)
  | flag b => exact iff_of_false nofun (fun ⟨_, h, _⟩ => by cases h)

end Number

end SecretAccess
