import SecretAccess.Audit.Record
import SecretAccess.Proofs.Failure
import SecretAccess.Proofs.Numeric.Numerals
import SecretAccess.Proofs.Text.Separated
import SecretAccess.Service.Basic

/-!
# What an audit line can be read as

An audit line joins its fields by a bar between blanks, and a log holds one line after another. The
time stamp, the action, the outcome and the mark of emergency access are words of this library. The
user, the type of the caller, the resource and the reason are texts from outside, and they are
written as they are.

* **`line_is_one_record_iff`**: a line is one line, and is read back as its fields, exactly if the
  texts from outside allow it: none holds a line break, and none holds a separator or runs into one.
  There is a line if the resource has a text.
* **`log_reads_back`**: from a log of such lines every record is read back, field by field.
* **`forged_line`**: a name that is refused can make its line read as two records, one of which says
  that access was granted.
-/

namespace SecretAccess

/-! ## Lines and bare words -/

namespace Text

/-- The characters that end a line: eight control characters, and the separators of lines and of
paragraphs. -/
def lineBreakRanges : List (Nat × Nat) :=
  [(0x0A, 0x0D), (0x1C, 0x1E), (0x85, 0x85), (0x2028, 0x2029)]

/-- Whether a character ends a line. -/
def isLineBreak (c : Char) : Bool := inRanges lineBreakRanges c.toNat

/-- Whether a text is one line. -/
def IsOneLine (s : String) : Prop := ∀ c ∈ s.toList, isLineBreak c = false

instance (s : String) : Decidable (IsOneLine s) :=
  List.decidableBAll (isLineBreak · = false) s.toList

/-- Whether a text has no blanks. -/
def IsBare (s : String) : Prop := ∀ c ∈ s.toList, isBlank c = false

instance (s : String) : Decidable (IsBare s) := List.decidableBAll (isBlank · = false) s.toList

/-- Line breaks are blanks. -/
theorem isLineBreak_of_not_isBlank {c : Char} (h : isBlank c = false) : isLineBreak c = false := by
  unfold isBlank blankRanges at h
  unfold isLineBreak lineBreakRanges
  simp only [inRanges] at h ⊢
  grind

/-- A text without blanks is one line. -/
theorem IsBare.isOneLine {s : String} (h : IsBare s) : IsOneLine s :=
  fun c hc => isLineBreak_of_not_isBlank (h c hc)

/-- Two texts make one without blanks if neither has any. -/
theorem isBare_append {s t : String} : IsBare (s ++ t) ↔ IsBare s ∧ IsBare t := by
  unfold IsBare
  rw [String.toList_append, List.forall_mem_append]

/-- Whether a text neither holds a separator of fields nor runs into one that stands behind it. -/
def KeepsApart (s : String) : Prop := ¬Occurs " | " (s ++ " |")

instance (s : String) : Decidable (KeepsApart s) := inferInstanceAs (Decidable ¬_)

/-- A text before others keeps apart from the separator behind it. -/
theorem areApart_cons_cons (text next : String) (rest : List String) :
    AreApart " | " (text :: next :: rest) ↔ KeepsApart text ∧ AreApart " | " (next :: rest) := by
  unfold KeepsApart Occurs
  rw [String.toList_append]
  exact Iff.rfl

/-- A text that keeps apart from a separator behind it holds none. -/
theorem KeepsApart.not_occurs {s : String} (h : KeepsApart s) : ¬Occurs " | " s := by
  intro hoccurs
  refine h ?_
  unfold Occurs
  rw [String.toList_append]
  exact hoccurs.trans (List.prefix_append _ _).isInfix

/-- A separator has two blanks, so a text without blanks keeps apart from one. -/
theorem IsBare.keepsApart {s : String} (h : IsBare s) : KeepsApart s := by
  have hnone : s.toList.count ' ' = 0 := by
    rw [List.count_eq_zero]
    intro hblank
    exact absurd (h _ hblank) (by decide)
  intro hoccurs
  -- the occurrence brings two blanks, and only one stands behind the text
  have hcount := hoccurs.sublist.count_le ' '
  rw [String.toList_append, List.count_append, hnone] at hcount
  exact absurd hcount (by decide)

end Text

open Text

/-! ## The words of a line -/

namespace Moment

/-- A number has no blanks. -/
theorem isBare_padded (width n : Nat) : IsBare (padded width n) := by
  intro c hc
  unfold padded at hc
  rw [String.toList_ofList, List.mem_append] at hc
  rcases hc with hzero | hdigit
  · rw [(List.mem_replicate.mp hzero).2]
    decide
  · exact not_isBlank_of_isDigit (Nat.isDigit_of_mem_toDigits (by decide) (by decide) hdigit)

/-- A distance from universal time has no blanks. -/
theorem isBare_offsetText (offset : Int) : IsBare (offsetText offset) := by
  unfold offsetText
  simp +decide only [isBare_append, isBare_padded, and_true]
  refine ⟨⟨?_, ?_⟩, ?_⟩
  · split <;> decide
  · split
    · decide
    · exact isBare_append.mpr ⟨by decide, isBare_padded _ _⟩
  · split
    · decide
    · exact isBare_append.mpr ⟨by decide, isBare_padded _ _⟩

/-- A time stamp has no blanks. -/
theorem isBare_text (moment : Moment) : IsBare moment.text := by
  unfold text
  simp +decide only [isBare_append, isBare_padded, true_and, and_true]
  refine ⟨?_, ?_⟩
  · split
    · decide
    · exact isBare_append.mpr ⟨by decide, isBare_padded _ _⟩
  · split
    · decide
    · exact isBare_offsetText _

end Moment

/-- The word for an action has no blanks. -/
theorem Action.isBare_word (action : Action) : IsBare action.word := by
  cases action <;> decide

namespace Audit

/-! ## Fields -/

namespace Record

/-- The user as the line shows it. -/
def shownUser (r : Record) : String := (r.caller.userId.filter (· ≠ "")).getD "-"

/-- The resource as the line shows it, where it has a text. -/
def resourceText (r : Record) : String := r.shownResource.toOption.getD ""

/-- The mark of emergency access, if there was any. -/
def marks (r : Record) : List String := if r.isEmergency then ["break-glass"] else []

/-- The fields of the line that come from outside and have others behind them. -/
def outsideFields (r : Record) : List String :=
  [r.shownUser, r.caller.principalType, r.resourceText]

/-- The fields of a record whose resource has a text. -/
def shownFields (r : Record) : List String :=
  r.timestamp :: r.shownUser :: r.caller.principalType :: r.action.word :: r.resourceText ::
    r.outcome :: (r.marks ++ r.shownDetail?.toList)

/-- The line of a record whose resource has a text. -/
def shownLine (r : Record) : String := join " | " r.shownFields

/-- Whether the line is one line. -/
def IsOneLine (r : Record) : Prop := Text.IsOneLine r.shownLine

/-- Whether the line is read back as its fields. -/
def ReadsBack (r : Record) : Prop := pieces " | " r.shownLine = r.shownFields

/-- **A resource with a text** gives the fields and the line. -/
theorem line_of_shown {r : Record} {shown : String} (h : r.shownResource = .ok shown) :
    r.resourceText = shown ∧ r.fields = .ok r.shownFields ∧ r.line = .ok r.shownLine := by
  have htext : r.resourceText = shown := by
    unfold resourceText
    rw [h]
    rfl
  have hfields : r.fields = .ok r.shownFields := by
    unfold fields shownFields
    rw [bind_of_eq_ok h, htext]
    rfl
  refine ⟨htext, hfields, ?_⟩
  unfold line shownLine
  rw [bind_of_eq_ok hfields]
  rfl

/-- A resource without a text gives neither. -/
theorem line_of_fault {r : Record} {fault : Fault} (h : r.shownResource = .error fault) :
    r.line = .error fault := by
  unfold line fields
  rw [bind_of_eq_error h]
  rfl

/-- The word for the outcome has no blanks. -/
theorem isBare_outcome (r : Record) : IsBare r.outcome := by
  unfold outcome
  split <;> decide

/-- The mark of emergency access has no blanks. -/
theorem isBare_of_mem_marks {r : Record} {s : String} (h : s ∈ r.marks) : IsBare s := by
  unfold marks at h
  split at h
  · rw [List.mem_singleton.mp h]
    decide
  · cases h

variable {r : Record}

/-- The fields from outside with others behind them are three. -/
theorem forall_mem_outsideFields {p : String → Prop} :
    (∀ s ∈ r.outsideFields, p s) ↔
      p r.shownUser ∧ p r.caller.principalType ∧ p r.resourceText := by
  simp [outsideFields]

/-- **The line is one line** exactly if every text from outside is. -/
theorem isOneLine_iff (h : IsBare r.timestamp) :
    r.IsOneLine ↔ (∀ s ∈ r.outsideFields, Text.IsOneLine s) ∧
      ∀ reason ∈ r.shownDetail?, Text.IsOneLine reason := by
  have hseparator : Text.IsOneLine " | " := by decide
  have hlines : r.IsOneLine ↔ ∀ s ∈ r.shownFields, Text.IsOneLine s :=
    forall_mem_join_iff hseparator r.shownFields
  have hmarks : ∀ s ∈ r.marks, Text.IsOneLine s := fun s hs => (isBare_of_mem_marks hs).isOneLine
  rw [hlines, shownFields, forall_mem_outsideFields]
  simp only [List.forall_mem_cons, List.forall_mem_append, Option.mem_toList, h.isOneLine,
    r.action.isBare_word.isOneLine, r.isBare_outcome.isOneLine, true_and, and_assoc]
  exact and_congr_right fun _ => and_congr_right fun _ => and_congr_right fun _ =>
    and_iff_right hmarks

/-- Behind the outcome, a line is read back exactly if the reason holds no separator. -/
theorem areApart_outcome_iff :
    AreApart " | " (r.outcome :: (r.marks ++ r.shownDetail?.toList)) ↔
      ∀ reason ∈ r.shownDetail?, ¬Occurs " | " reason := by
  have houtcome := r.isBare_outcome.keepsApart
  have hmark : KeepsApart "break-glass" := by decide
  have hreason : ∀ detail, AreApart " | " [detail] ↔
      ∀ reason ∈ some detail, ¬Occurs " | " reason := by simp [AreApart]
  have hnone : ∀ reason ∈ (none : Option String), ¬Occurs " | " reason := by simp
  -- the last text has nothing behind it, so the bare words before a reason keep apart from it
  unfold marks
  rcases r.isEmergency with _ | _ <;> rcases r.shownDetail? with _ | detail
  · exact iff_of_true houtcome.not_occurs hnone
  · exact (areApart_cons_cons _ _ _).trans ((and_iff_right houtcome).trans (hreason detail))
  · exact iff_of_true ((areApart_cons_cons _ _ _).mpr ⟨houtcome, hmark.not_occurs⟩) hnone
  · exact (areApart_cons_cons _ _ _).trans ((and_iff_right houtcome).trans
      ((areApart_cons_cons _ _ _).trans ((and_iff_right hmark).trans (hreason detail))))

/-- **The line is read back as its fields** exactly if every field from outside keeps apart from the
separator behind it and the reason holds none. -/
theorem readsBack_iff (h : IsBare r.timestamp) :
    r.ReadsBack ↔ (∀ s ∈ r.outsideFields, KeepsApart s) ∧
      ∀ reason ∈ r.shownDetail?, ¬Occurs " | " reason := by
  have hfields : r.ReadsBack ↔ AreApart " | " r.shownFields :=
    pieces_join_iff (by decide) r.shownFields
  rw [hfields, shownFields, forall_mem_outsideFields]
  simp only [areApart_cons_cons, areApart_outcome_iff, h.keepsApart,
    r.action.isBare_word.keepsApart, true_and, and_assoc]

end Record

/-! ## Lines and logs -/

/-- **A line is one record** exactly if the texts from outside allow it. For every decision, every
resource and action, and at every moment, if the resource has no text there is no line. Otherwise
there is one, and

1. the line has no line break exactly if the user, the type of the caller, the resource and the
   reason have none;
2. cut at the separators, the line gives the time stamp, the user, the type, the action, the
   resource, the outcome, the mark of emergency access if there was any and the reason if there is
   one, in this order and nothing else, exactly if the user, the type and the resource keep apart
   from the separator behind them and the reason holds none. -/
theorem line_is_one_record_iff (decision : Decision) (resource : Value) (action : Action)
    (correlationId : Option String) (now : Moment) :
    let r := record decision resource action correlationId now
    let user := (decision.caller.userId.filter (· ≠ "")).getD "-"
    let shown? : Except Fault String := if resource.isPresent then resource.display else .ok "-"
    let reason? := decision.reason?.filter (· ≠ "")
    (∀ fault, shown? = .error fault → r.line = .error fault) ∧
      ∀ shown, shown? = .ok shown → ∃ line, r.line = .ok line ∧
        (Text.IsOneLine line ↔
          (∀ s ∈ [user, decision.caller.principalType, shown], Text.IsOneLine s) ∧
            ∀ reason ∈ reason?, Text.IsOneLine reason) ∧
        (pieces " | " line =
            [now.text, user, decision.caller.principalType, action.word, shown,
              if decision.isAuthorized then "success" else "denied"] ++
              (if decision.isEmergency then ["break-glass"] else []) ++ reason?.toList ↔
          (∀ s ∈ [user, decision.caller.principalType, shown], KeepsApart s) ∧
            ∀ reason ∈ reason?, ¬Occurs " | " reason) := by
  intro r user shown? reason?
  have hstamp : IsBare r.timestamp := now.isBare_text
  refine ⟨fun fault hfault => Record.line_of_fault hfault, fun shown hshown => ?_⟩
  obtain ⟨rfl, -, hline⟩ := Record.line_of_shown (r := r) hshown
  exact ⟨r.shownLine, hline, Record.isOneLine_iff hstamp, Record.readsBack_iff hstamp⟩

/-- **A log of such lines is read back** record by record and field by field. -/
theorem log_reads_back {records : List Record} (hne : records ≠ [])
    (h : ∀ r ∈ records, (∃ shown, r.shownResource = .ok shown) ∧ r.IsOneLine ∧ r.ReadsBack) :
    ∃ lines fields, records.mapM Record.line = .ok lines ∧
      records.mapM Record.fields = .ok fields ∧
      (pieces "\n" (join "\n" lines)).map (pieces " | ") = fields := by
  have hshown : ∀ r ∈ records, r.fields = .ok r.shownFields ∧ r.line = .ok r.shownLine := by
    intro r hr
    obtain ⟨shown, hresource⟩ := (h r hr).1
    exact (Record.line_of_shown hresource).2
  have hlines : ∀ s ∈ records.map Record.shownLine,
      ¬"\n".toList <:+: s.toList ++ "\n".toList.dropLast := by
    intro s hs hbreak
    obtain ⟨r, hr, rfl⟩ := List.mem_map.mp hs
    have hmem : '\n' ∈ r.shownLine.toList ++ [] := hbreak.mem (by decide)
    rw [List.append_nil] at hmem
    exact absurd ((h r hr).2.1 _ hmem) (by decide)
  have happart := areApart_of_forall (fun he => hne (List.map_eq_nil_iff.mp he)) hlines
  refine ⟨_, _, mapM_eq_ok_map fun r hr => (hshown r hr).2,
    mapM_eq_ok_map fun r hr => (hshown r hr).1, ?_⟩
  rw [(pieces_join_iff (by decide) _).mpr happart, List.map_map]
  exact List.map_congr_left fun r hr => (h r hr).2.2

/-! ## Forging -/

/-- A name that would be two fields, a line break and five fields of another line. -/
def forgingName : Value :=
  .text "a | success\n2026-01-02T03:04:05+00:00 | admin | user | read | x"

/-- **A refused name forges a record.** The service refuses the name, and the line of that denial
reads as two lines: the caller was granted access to `a`, and somebody else was denied access to
`x`. -/
theorem forged_line :
    let service : Service := ⟨⟨[]⟩, .int 3600⟩
    let caller : Caller := ⟨some "u", "user"⟩
    let now : Moment := ⟨2026, 1, 2, 3, 4, 5, 0, some 0⟩
    let denial (caller : Caller) : Decision :=
      .deny caller .invalidResourceName NameFault.characters.message
    let written := record (denial caller) forgingName .read none now
    (service.authorize (.int 1800000000) .empty ⟨caller, [], none, true⟩ forgingName .read).result =
        .ok (denial caller) ∧
      (∃ line first second, written.line = .ok line ∧
        (record (.grant caller) (.text "a") .read none now).line = .ok first ∧
        (record (denial ⟨some "admin", "user"⟩) (.text "x") .read none now).line = .ok second ∧
        line = first ++ "\n" ++ second) ∧
      ¬written.IsOneLine ∧ ¬written.ReadsBack := by
  intro service caller now denial written
  have hstamp : IsBare written.timestamp := now.isBare_text
  have hresource : written.resourceText ∈ written.outsideFields := by
    simp [Record.outsideFields]
  refine ⟨rfl, ⟨_, _, _, rfl, rfl, rfl, by decide +kernel⟩, ?_, ?_⟩
  · rw [Record.isOneLine_iff hstamp]
    intro h
    exact absurd (h.1 _ hresource) (by decide +kernel)
  · rw [Record.readsBack_iff hstamp]
    intro h
    exact absurd (h.1 _ hresource) (by decide +kernel)

end Audit

end SecretAccess
