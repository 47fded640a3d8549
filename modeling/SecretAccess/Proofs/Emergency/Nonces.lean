import SecretAccess.Emergency.Grant
import SecretAccess.Proofs.Failure

/-!
# Which nonces are texts

A nonce comes in as characters and surrogates. It is a text exactly if it holds characters only
(`Nonce.text_eq_ok_iff`); otherwise its first run of surrogates is reported, with the place where it
stands (`Nonce.text_eq_error_iff`). On nonces that are texts, the operations on nonces are those on
texts.
-/

namespace SecretAccess.Nonce

/-! ## Characters up to the first surrogate -/

/-- A nonce holds characters only, or characters up to a first surrogate. -/
theorem exists_first_surrogate (points : List (Char ⊕ Surrogate)) :
    (∃ cs : List Char, points = cs.map .inl) ∨
      ∃ (before : List Char) (s : Surrogate) (behind : List (Char ⊕ Surrogate)),
        points = before.map .inl ++ .inr s :: behind := by
  induction points with
  | nil => exact .inl ⟨[], rfl⟩
  | cons point rest ih =>
    rcases point with c | s
    · rcases ih with ⟨cs, rfl⟩ | ⟨before, s, behind, rfl⟩
      · exact .inl ⟨c :: cs, rfl⟩
      · exact .inr ⟨c :: before, s, behind, rfl⟩
    · exact .inr ⟨[], s, rest, rfl⟩

/-- Where there are characters only, these are read. -/
theorem charsFrom_characters (place : Nat) (cs : List Char) :
    charsFrom place (cs.map .inl) = .ok cs := by
  induction cs generalizing place with
  | nil => rfl
  | cons c rest ih =>
    rw [List.map_cons, charsFrom, ih]
    rfl

/-- Where there is a surrogate, the first one is reported, at its place. -/
theorem charsFrom_surrogate (place : Nat) (before : List Char) (s : Surrogate)
    (behind : List (Char ⊕ Surrogate)) :
    charsFrom place (before.map .inl ++ .inr s :: behind) =
      .error (.surrogates s.codePoint (place + before.length) (leadingSurrogates behind + 1)) := by
  induction before generalizing place with
  | nil => rfl
  | cons c rest ih =>
    rw [List.map_cons, List.cons_append, charsFrom, ih, List.length_cons, Nat.add_assoc,
      Nat.add_comm 1]
    rfl

/-! ## The text of a nonce -/

/-- A text is the text of the nonce that it is. -/
@[simp] theorem text_ofText (s : String) : (ofText s).text = .ok s := by
  unfold text ofText
  rw [charsFrom_characters]
  exact congrArg Except.ok String.ofList_toList

/-- **A nonce has a text exactly if it holds characters only.** -/
theorem text_eq_ok_iff {nonce : Nonce} {s : String} : nonce.text = .ok s ↔ nonce = ofText s := by
  constructor
  · intro h
    obtain ⟨points⟩ := nonce
    rcases exists_first_surrogate points with ⟨cs, rfl⟩ | ⟨before, surrogate, behind, rfl⟩
    · unfold text at h
      rw [charsFrom_characters] at h
      cases h
      unfold ofText
      rw [String.toList_ofList]
    · unfold text at h
      rw [charsFrom_surrogate] at h
      cases h
  · rintro rfl
    exact text_ofText s

/-- A nonce has no text exactly if it holds a surrogate, and the first one is reported with its
place and with the number of surrogates that stand there in a row. -/
theorem text_eq_error_iff {nonce : Nonce} {fault : Fault} :
    nonce.text = .error fault ↔
      ∃ (before : List Char) (s : Surrogate) (behind : List (Char ⊕ Surrogate)),
        nonce.points = before.map .inl ++ .inr s :: behind ∧
          fault = .surrogates s.codePoint before.length (leadingSurrogates behind + 1) := by
  constructor
  · intro h
    rcases exists_first_surrogate nonce.points with ⟨cs, hcs⟩ | ⟨before, s, behind, hsplit⟩
    · unfold text at h
      rw [hcs, charsFrom_characters] at h
      cases h
    · unfold text at h
      rw [hsplit, charsFrom_surrogate, Nat.zero_add] at h
      cases h
      exact ⟨before, s, behind, hsplit, rfl⟩
  · rintro ⟨before, s, behind, hsplit, rfl⟩
    unfold text
    rw [hsplit, charsFrom_surrogate, Nat.zero_add]
    rfl

/-! ## Blanks -/

/-- A nonce that is a text is stripped as one. -/
@[simp] theorem strip_ofText (s : String) : (ofText s).strip = ofText (Text.strip s) := by
  have hblank : isBlankPoint ∘ .inl = Text.isBlank := rfl
  unfold strip ofText Text.strip Text.stripChars
  rw [String.toList_ofList]
  simp only [List.dropWhile_map, ← List.map_reverse, hblank]

/-- There is nothing in a nonce if its text is empty. -/
theorem isEmpty_iff {nonce : Nonce} : nonce.isEmpty = true ↔ nonce = ofText "" := by
  obtain ⟨points⟩ := nonce
  rcases points with _ | ⟨point, rest⟩
  · exact iff_of_true rfl rfl
  · exact iff_of_false nofun nofun

/-! ## Fingerprints -/

/-- The fingerprint of a nonce is that of its text. -/
theorem fingerprint_eq_ok_iff {nonce : Nonce} {fingerprint : String} :
    nonce.fingerprint = .ok fingerprint ↔
      ∃ s, nonce.text = .ok s ∧ fingerprintOf s = fingerprint := by
  unfold Nonce.fingerprint
  exact bind_eq_ok_iff.trans (by simp only [pure, Except.pure, Except.ok.injEq])

end SecretAccess.Nonce
