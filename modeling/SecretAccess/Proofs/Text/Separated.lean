import Mathlib.Data.List.Infix
import SecretAccess.Text.Written

/-!
# Texts cut at a separating text

`Text.join` puts a separating text between pieces, and nothing keeps a piece from holding that text
itself. Whoever reads a joined text can only cut it at every occurrence of the separator, which
`pieces` does from the left. This file says exactly when that gives the joined pieces back.

* **One piece** (`piecesFrom_append_eq_cons_iff`): the first piece is read back exactly if the
  separator does not occur in it *followed by all but the last character of a separator*. An
  occurrence may start in the piece and end in the separator behind it.
* **All pieces** (`pieces_join_iff`): joined pieces are read back exactly if that holds of every
  piece but the last, and the separator does not occur in the last.
-/

namespace SecretAccess.Text

/-! ## Cutting -/

/-- The pieces of a list of characters between the occurrences of a separator, looked for from the
left, after some characters that still belong to an occurrence. -/
def piecesFrom (separator : List Char) : Nat → List Char → List (List Char)
  | _, [] => [[]]
  | skipped + 1, _ :: rest => piecesFrom separator skipped rest
  | 0, c :: rest =>
    if separator.isPrefixOf (c :: rest) then [] :: piecesFrom separator (separator.length - 1) rest
    else (piecesFrom separator 0 rest).modifyHead (c :: ·)

/-- The pieces of a text between the occurrences of a separator. -/
def pieces (separator s : String) : List String :=
  (piecesFrom separator.toList 0 s.toList).map String.ofList

/-- Whether a text occurs in another. -/
def Occurs (part s : String) : Prop := part.toList <:+: s.toList

instance (part s : String) : Decidable (Occurs part s) :=
  inferInstanceAs (Decidable (part.toList <:+: s.toList))

section Cutting

variable {separator : List Char}

/-- The characters of an occurrence are skipped. -/
theorem piecesFrom_length_append (skipped rest : List Char) :
    piecesFrom separator skipped.length (skipped ++ rest) = piecesFrom separator 0 rest := by
  induction skipped with
  | nil => rfl
  | cons c skipped ih =>
    rw [List.length_cons, List.cons_append, piecesFrom]
    exact ih

/-- A separator is cut away. -/
theorem piecesFrom_separator_append (hne : separator ≠ []) (rest : List Char) :
    piecesFrom separator 0 (separator ++ rest) = [] :: piecesFrom separator 0 rest := by
  obtain ⟨first, more, rfl⟩ := List.exists_cons_of_ne_nil hne
  have hstarts : (first :: more).isPrefixOf (first :: (more ++ rest)) = true :=
    List.isPrefixOf_iff_prefix.mpr (List.prefix_append (first :: more) rest)
  rw [List.cons_append, piecesFrom, if_pos hstarts, List.length_cons, Nat.add_sub_cancel,
    piecesFrom_length_append]

/-- A character with which no separator starts belongs to the first piece. -/
theorem piecesFrom_cons_of_not_starts {c : Char} {rest : List Char}
    (h : ¬separator <+: c :: rest) :
    piecesFrom separator 0 (c :: rest) = (piecesFrom separator 0 rest).modifyHead (c :: ·) := by
  rw [piecesFrom, if_neg]
  rwa [List.isPrefixOf_iff_prefix]

/-- A separator at the front leaves an empty first piece. -/
theorem piecesFrom_cons_of_starts {c : Char} {rest : List Char} (h : separator <+: c :: rest) :
    ∃ tail, piecesFrom separator 0 (c :: rest) = [] :: tail := by
  rw [piecesFrom, if_pos (List.isPrefixOf_iff_prefix.mpr h)]
  exact ⟨_, rfl⟩

/-- The first piece starts with a character exactly if no separator starts there. -/
theorem piecesFrom_cons_eq_cons_cons_iff {c : Char} {rest piece : List Char}
    {tail : List (List Char)} :
    piecesFrom separator 0 (c :: rest) = (c :: piece) :: tail ↔
      ¬separator <+: c :: rest ∧ piecesFrom separator 0 rest = piece :: tail := by
  by_cases hstarts : separator <+: c :: rest
  · obtain ⟨others, hcut⟩ := piecesFrom_cons_of_starts hstarts
    rw [hcut]
    refine iff_of_false (fun he => ?_) (fun h => h.1 hstarts)
    cases he
  · rw [piecesFrom_cons_of_not_starts hstarts]
    rcases piecesFrom separator 0 rest with _ | ⟨first, others⟩
    · refine iff_of_false (fun he => ?_) (fun h => ?_)
      · cases he
      · cases h.2
    · rw [List.modifyHead_cons, List.cons.injEq, List.cons.injEq, List.cons.injEq]
      exact ⟨fun h => ⟨hstarts, h.1.2, h.2⟩, fun h => ⟨⟨rfl, h.2.1⟩, h.2.2⟩⟩

/-- **The last piece** is read back exactly if the separator does not occur in it. -/
theorem piecesFrom_eq_singleton_iff (hne : separator ≠ []) (piece : List Char) :
    piecesFrom separator 0 piece = [piece] ↔ ¬separator <:+: piece := by
  induction piece with
  | nil => exact iff_of_true rfl fun h => hne (List.infix_nil.mp h)
  | cons c rest ih =>
    rw [piecesFrom_cons_eq_cons_cons_iff, ih, List.infix_cons_iff, not_or]

/-- Where a separator starts in a piece, it starts in the piece followed by all but the last
character of a separator: from there it cannot reach any further. -/
theorem prefix_append_dropLast_iff (c : Char) (piece rest : List Char) :
    separator <+: c :: (piece ++ (separator ++ rest)) ↔
      separator <+: c :: (piece ++ separator.dropLast) := by
  have hlength : separator.length ≤ (c :: (piece ++ separator.dropLast)).length := by
    rw [List.length_cons, List.length_append, List.length_dropLast]
    omega
  have hstarts : c :: (piece ++ separator.dropLast) <+: c :: (piece ++ (separator ++ rest)) := by
    rw [List.prefix_cons_inj, List.prefix_append_right_inj]
    have hdrop : separator.dropLast <+: separator := List.dropLast_prefix separator
    exact hdrop.trans (List.prefix_append separator rest)
  exact ⟨fun h => List.prefix_of_prefix_length_le h hstarts hlength, fun h => h.trans hstarts⟩

/-- **A piece before a separator** is read back exactly if no separator occurs in it or starts in it
and ends in the one behind it. -/
theorem piecesFrom_append_eq_cons_iff (hne : separator ≠ []) (piece rest : List Char)
    (tail : List (List Char)) :
    piecesFrom separator 0 (piece ++ (separator ++ rest)) = piece :: tail ↔
      ¬separator <:+: piece ++ separator.dropLast ∧ piecesFrom separator 0 rest = tail := by
  -- on the piece: a separator that starts at its first character would cut the piece there
  induction piece with
  | nil =>
    have hno : ¬separator <:+: separator.dropLast := by
      intro h
      have hlength := h.length_le
      have hpos := List.length_pos_iff.mpr hne
      rw [List.length_dropLast] at hlength
      omega
    rw [List.nil_append, List.nil_append, piecesFrom_separator_append hne, List.cons.injEq]
    exact ⟨fun h => ⟨hno, h.2⟩, fun h => ⟨rfl, h.2⟩⟩
  | cons c piece ih =>
    rw [List.cons_append, List.cons_append, piecesFrom_cons_eq_cons_cons_iff, ih,
      List.infix_cons_iff, not_or, prefix_append_dropLast_iff, and_assoc]

end Cutting

/-! ## Reading joined texts back -/

/-- The pieces of a text are given by those of its characters. -/
theorem pieces_eq_iff (separator s : String) (texts : List String) :
    pieces separator s = texts ↔
      piecesFrom separator.toList 0 s.toList = texts.map String.toList := by
  unfold pieces
  constructor
  · rintro rfl
    rw [List.map_map]
    exact (List.map_id'' (fun _ => String.toList_ofList) _).symm
  · intro h
    rw [h, List.map_map]
    exact List.map_id'' (fun _ => String.ofList_toList) _

/-- Whether no text holds a separator, or runs into one that stands behind it. -/
def AreApart (separator : String) : List String → Prop
  | [] => False
  | [last] => ¬Occurs separator last
  | piece :: next :: rest =>
    ¬separator.toList <:+: piece.toList ++ separator.toList.dropLast ∧
      AreApart separator (next :: rest)

/-- Texts none of which holds a separator or runs into one, the last included. -/
theorem areApart_of_forall {separator : String} {texts : List String} (hne : texts ≠ [])
    (h : ∀ s ∈ texts, ¬separator.toList <:+: s.toList ++ separator.toList.dropLast) :
    AreApart separator texts := by
  induction texts with
  | nil => exact absurd rfl hne
  | cons text rest ih =>
    obtain ⟨htext, hrest⟩ := List.forall_mem_cons.mp h
    rcases rest with _ | ⟨next, rest⟩
    · exact fun hoccurs => htext (hoccurs.trans (List.prefix_append _ _).isInfix)
    · exact ⟨htext, ih (List.cons_ne_nil next rest) hrest⟩

/-- **Joined texts are read back** exactly if no text holds a separator or runs into one. -/
theorem pieces_join_iff {separator : String} (hne : separator ≠ "") (texts : List String) :
    pieces separator (join separator texts) = texts ↔ AreApart separator texts := by
  have hcharacters : separator.toList ≠ [] := fun h => hne (String.toList_eq_nil_iff.mp h)
  rw [pieces_eq_iff]
  induction texts with
  | nil => exact iff_of_false (fun h => by cases h) id
  | cons piece rest ih =>
    rcases rest with _ | ⟨next, rest⟩
    · exact piecesFrom_eq_singleton_iff hcharacters piece.toList
    · have hjoin : (join separator (piece :: next :: rest)).toList =
          piece.toList ++ (separator.toList ++ (join separator (next :: rest)).toList) := by
        unfold join
        rw [String.intercalate_cons_cons, String.toList_append, String.toList_append,
          List.append_assoc]
      rw [hjoin, List.map_cons, piecesFrom_append_eq_cons_iff hcharacters, AreApart]
      exact and_congr_right fun _ => ih

/-- Every character of joined texts is one of a text or of the separator. -/
theorem forall_mem_join_iff {p : Char → Prop} {separator : String}
    (hseparator : ∀ c ∈ separator.toList, p c) (texts : List String) :
    (∀ c ∈ (join separator texts).toList, p c) ↔ ∀ s ∈ texts, ∀ c ∈ s.toList, p c := by
  induction texts with
  | nil => exact iff_of_true nofun nofun
  | cons piece rest ih =>
    rw [List.forall_mem_cons]
    rcases rest with _ | ⟨next, rest⟩
    · exact ⟨fun h => ⟨h, nofun⟩, fun h => h.1⟩
    · rw [← ih]
      unfold join
      rw [String.intercalate_cons_cons, String.toList_append, String.toList_append,
        List.forall_mem_append, List.forall_mem_append]
      exact ⟨fun h => ⟨h.1.1, h.2⟩, fun h => ⟨⟨h.1, hseparator⟩, h.2⟩⟩

end SecretAccess.Text
