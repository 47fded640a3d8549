import SecretAccess.Permission.Scope
import SecretAccess.Proofs.Text.Lowered

/-!
# The grammar of permissions

Every scope has a *printed* form, and a permission has a scope exactly if its lower case is the
printed form of a well-formed scope:

* `ofText?_eq_some_iff`: **reading inverts printing**. The segments of a lowered text are lowered
  and hold no colon, so nothing that the grammar does not print is read.
* `exists_covering_iff`: **what a permission opens** is a matter of its text alone. The known
  categories decide what a scope is called, and not what it covers.
* `firstCovering_isSome_iff`: some scope of a list of permissions covers a request exactly if **one
  of the permissions opens it**, wherever it stands in the list.
-/

namespace SecretAccess

/-- A text names the action whose word is its lower case. -/
theorem Action.ofText?_eq_some_iff {s : String} {action : Action} :
    Action.ofText? s = some action ↔ Text.lower s = action.word := by
  unfold Action.ofText?
  constructor
  · intro h
    have hword := List.find?_some h
    exact (of_decide_eq_true hword).symm
  · intro h
    rw [h]
    cases action <;> decide

namespace Scope

/-! ## Printed scopes -/

/-- The segment for an action, or for all of them. -/
def actionSegment : Option Action → String
  | none => wildcard
  | some action => action.word

/-- The segments that a scope is printed in. -/
def spelling (scope : Scope) : List String :=
  match scope.kind with
  | .everything => [lead, wildcard]
  | .everySecret => [lead, actionSegment scope.action, wildcard]
  | .category | .oneSecret => [lead, actionSegment scope.action, scope.value]

/-- The permission, in lower case, that a scope is printed as. -/
def printed (scope : Scope) : String := Text.join ":" scope.spelling

/-- Whether a text is without colon and not empty, as every segment of a permission is. -/
def IsSegment (piece : String) : Prop := piece ≠ "" ∧ ':' ∉ piece.toList

/-- Whether a scope has what its kind calls for, given the known categories. -/
def WellFormed (known : List String) (scope : Scope) : Prop :=
  match scope.kind with
  | .everything => scope.action = none ∧ scope.value = ""
  | .everySecret => scope.value = ""
  | .category => IsSegment scope.value ∧ scope.value ≠ wildcard ∧
      scope.value ∈ known.map Text.lower
  | .oneSecret => IsSegment scope.value ∧ scope.value ≠ wildcard ∧
      scope.value ∉ known.map Text.lower

/-- The segment for an action is one. -/
theorem isSegment_actionSegment (action : Option Action) : IsSegment (actionSegment action) := by
  unfold IsSegment
  rcases action with _ | action
  · decide
  · cases action <;> decide

/-- A well-formed scope is printed in segments. -/
theorem WellFormed.isSegment_of_mem {known : List String} {scope : Scope}
    (h : scope.WellFormed known) {piece : String} (hpiece : piece ∈ scope.spelling) :
    IsSegment piece := by
  have hlead : IsSegment lead := by
    unfold IsSegment
    decide
  obtain ⟨kind, action, value⟩ := scope
  have hvalue : kind = .category ∨ kind = .oneSecret → IsSegment value := by
    rintro (rfl | rfl)
    · exact h.1
    · exact h.1
  cases kind <;>
    simp only [spelling, List.mem_cons, List.not_mem_nil, or_false] at hpiece
  case everything =>
    rcases hpiece with rfl | rfl
    · exact hlead
    · exact isSegment_actionSegment none
  case everySecret =>
    rcases hpiece with rfl | rfl | rfl
    · exact hlead
    · exact isSegment_actionSegment action
    · exact isSegment_actionSegment none
  case category =>
    rcases hpiece with rfl | rfl | rfl
    · exact hlead
    · exact isSegment_actionSegment action
    · exact hvalue (Or.inl rfl)
  case oneSecret =>
    rcases hpiece with rfl | rfl | rfl
    · exact hlead
    · exact isSegment_actionSegment action
    · exact hvalue (Or.inr rfl)

/-! ## Reading segments -/

/-- A lowered segment grants the action that it is the segment for. -/
theorem actionOf?_eq_some_iff {piece : String} (hlow : Text.lower piece = piece)
    {action : Option Action} : actionOf? piece = some action ↔ piece = actionSegment action := by
  unfold actionOf?
  by_cases hwild : piece = wildcard
  · rw [if_pos hwild, Option.some.injEq, hwild]
    rcases action with _ | action
    · exact iff_of_true rfl rfl
    · apply iff_of_false (fun h => by cases h)
      cases action <;> decide
  · rw [if_neg hwild, Option.map_eq_some_iff]
    constructor
    · rintro ⟨named, hnamed, rfl⟩
      rw [Action.ofText?_eq_some_iff, hlow] at hnamed
      exact hnamed
    · intro h
      rcases action with _ | action
      · exact absurd h hwild
      · exact ⟨action, Action.ofText?_eq_some_iff.mpr (hlow.trans h), rfl⟩

/-- An action is granted by the segment for it. -/
theorem actionOf?_actionSegment (action : Option Action) :
    actionOf? (actionSegment action) = some action := by
  apply (actionOf?_eq_some_iff _).mpr rfl
  rcases action with _ | action
  · decide
  · cases action <;> decide

/-- What a last segment is read as is spelled with that segment, and well formed. -/
theorem onSegment_spelling (known : List String) (action : Option Action) {last : String}
    (hlast : IsSegment last) :
    (onSegment known action last).spelling = [lead, actionSegment action, last] ∧
      (onSegment known action last).WellFormed known := by
  unfold onSegment
  by_cases hwild : last = wildcard
  · rw [if_pos hwild, hwild]
    exact ⟨rfl, rfl⟩
  · rw [if_neg hwild]
    by_cases hknown : last ∈ known.map Text.lower
    · rw [if_pos (List.contains_iff_mem.mpr hknown)]
      exact ⟨rfl, hlast, hwild, hknown⟩
    · rw [if_neg (fun h => hknown (List.contains_iff_mem.mp h))]
      exact ⟨rfl, hlast, hwild, hknown⟩

/-- The scope that lowered segments have is spelled in these segments, and well formed. -/
theorem spelling_of_ofSegments {known pieces : List String}
    (hlow : ∀ piece ∈ pieces, Text.lower piece = piece ∧ ':' ∉ piece.toList) {scope : Scope}
    (h : ofSegments known pieces = some scope) :
    pieces = scope.spelling ∧ scope.WellFormed known := by
  unfold ofSegments at h
  by_cases hguard : (decide (pieces.head? ≠ some lead) || pieces.any (· = "")) = true
  · rw [if_pos hguard] at h
    cases h
  · rw [if_neg hguard] at h
    simp only [Bool.or_eq_true, not_or, decide_eq_true_eq, Decidable.not_not, List.any_eq_true,
      not_exists, not_and] at hguard
    obtain ⟨hhead, hempty⟩ := hguard
    rcases pieces with _ | ⟨first, _ | ⟨second, _ | ⟨last, _ | ⟨more, rest⟩⟩⟩⟩
    · cases h
    · cases h
    · rw [List.head?_cons, Option.some.injEq] at hhead
      by_cases hwild : second = wildcard
      · simp only [hwild, if_true, Option.some.injEq] at h
        rw [← h, hhead, hwild]
        exact ⟨rfl, rfl, rfl⟩
      · simp only [hwild, if_false] at h
        cases h
    · rw [List.head?_cons, Option.some.injEq] at hhead
      obtain ⟨action, haction, rfl⟩ := Option.map_eq_some_iff.mp h
      have hlast : IsSegment last :=
        ⟨hempty last (by simp), (hlow last (by simp)).2⟩
      obtain ⟨hspelling, hformed⟩ := onSegment_spelling known action hlast
      refine ⟨?_, hformed⟩
      rw [hspelling, hhead, ← (actionOf?_eq_some_iff (hlow second (by simp)).1).mp haction]
    · cases h

/-- A well-formed scope is read from the segments that it is spelled in. -/
theorem ofSegments_spelling {known : List String} {scope : Scope} (h : scope.WellFormed known) :
    ofSegments known scope.spelling = some scope := by
  have hguard : ¬(decide (scope.spelling.head? ≠ some lead) ||
      scope.spelling.any (· = "")) = true := by
    simp only [Bool.or_eq_true, not_or, decide_eq_true_eq, Decidable.not_not, List.any_eq_true,
      not_exists, not_and]
    refine ⟨?_, fun piece hpiece => (h.isSegment_of_mem hpiece).1⟩
    unfold spelling
    split <;> rfl
  unfold ofSegments
  rw [if_neg hguard]
  obtain ⟨kind, action, value⟩ := scope
  cases kind
  case everything =>
    obtain ⟨rfl, rfl⟩ := h
    rfl
  case everySecret =>
    cases h
    simp only [spelling, actionOf?_actionSegment, Option.map_some]
    rfl
  case category =>
    obtain ⟨-, hwild, hknown⟩ := h
    simp only [spelling, actionOf?_actionSegment, Option.map_some, onSegment]
    rw [if_neg hwild, if_pos (List.contains_iff_mem.mpr hknown)]
  case oneSecret =>
    obtain ⟨-, hwild, hknown⟩ := h
    simp only [spelling, actionOf?_actionSegment, Option.map_some, onSegment]
    rw [if_neg hwild, if_neg (fun h => hknown (List.contains_iff_mem.mp h))]

/-- **Reading inverts printing.** A text has a scope exactly if its lower case is the printed form
of that scope and the scope is well formed. -/
theorem ofText?_eq_some_iff {known : List String} {s : String} {scope : Scope} :
    ofText? known s = some scope ↔ Text.lower s = scope.printed ∧ scope.WellFormed known := by
  have hsegments : Text.lower s = scope.printed ∧ scope.WellFormed known ↔
      Text.segments ':' (Text.lower s) = scope.spelling ∧ scope.WellFormed known := by
    apply and_congr_left
    intro hformed
    rw [Text.segments_eq_iff]
    constructor
    · intro h
      refine ⟨?_, fun piece hpiece => (hformed.isSegment_of_mem hpiece).2, h.symm⟩
      unfold spelling
      split <;> exact List.cons_ne_nil _ _
    · rintro ⟨-, -, h⟩
      exact h.symm
  rw [hsegments]
  unfold ofText?
  constructor
  · intro h
    apply spelling_of_ofSegments _ h
    intro piece hpiece
    exact ⟨Text.lower_of_mem_segments hpiece, (Text.segments_eq_iff.mp rfl).2.1 piece hpiece⟩
  · rintro ⟨h, hformed⟩
    rw [h]
    exact ofSegments_spelling hformed

/-- The scope of a text as a permission. -/
theorem ofValue?_text (known : List String) (s : String) :
    ofValue? known (.text s) = ofText? known s := by
  simp only [ofValue?, Value.text?, Option.bind_some]

/-! ## What a permission opens -/

/-- Whether a permission is one, in any letter case, for an action on something that `named` holds
of, or on everything. -/
def Opens (action : Action) (named : String → Prop) (permission : Value) : Prop :=
  ∃ s, permission = .text s ∧
    (Text.lower s = "secrets:*" ∨
      ∃ x y, Text.lower s = "secrets:" ++ x ++ ":" ++ y ∧ (x = "*" ∨ x = action.word) ∧
        (y = "*" ∨ named y))

/-- Three segments are joined by two colons. -/
theorem join_three (x y : String) :
    Text.join ":" [lead, x, y] = "secrets:" ++ x ++ ":" ++ y := by
  unfold Text.join
  rw [String.intercalate_cons_cons, String.intercalate_cons_cons, String.intercalate_singleton,
    ← String.append_assoc, ← String.append_assoc]
  rfl

/-- A scope is for an action if its segment is the wildcard or the word of the action. -/
theorem allows_iff {scope : Scope} {action : Action} :
    scope.allows action = true ↔
      actionSegment scope.action = "*" ∨ actionSegment scope.action = action.word := by
  unfold allows
  rcases scope.action with _ | own
  · exact iff_of_true rfl (Or.inl rfl)
  · cases own <;> cases action <;> decide

/-- Whether the last segment of a permission is known as a category is of no consequence for what
the permission covers. -/
theorem covers_onSegment {known : List String} {action : Option Action} {last : String}
    {request : Request} (hallows : actionSegment action = "*" ∨
      actionSegment action = request.action.word)
    (hlast : last = "*" ∨ names last request = true) :
    (onSegment known action last).covers request = true := by
  unfold onSegment covers
  by_cases hwild : last = wildcard
  · rw [if_pos hwild]
    exact allows_iff.mpr hallows
  · have hnames := hlast.resolve_left hwild
    rw [if_neg hwild]
    by_cases hknown : (known.map Text.lower).contains last = true
    · rw [if_pos hknown]
      exact Bool.and_eq_true_iff.mpr ⟨allows_iff.mpr hallows, hnames⟩
    · rw [if_neg hknown]
      exact Bool.and_eq_true_iff.mpr ⟨allows_iff.mpr hallows, hnames⟩

/-- A permission that opens something has a scope, whatever categories are known, and the scope
covers every request for what is opened. -/
theorem exists_scope_of_opens (known : List String) {action : Action} {named : String → Prop}
    (hsegment : ∀ y, named y → IsSegment y) {permission : Value}
    (h : Opens action named permission) :
    ∃ scope, ofValue? known permission = some scope ∧ ∀ request : Request,
      request.action = action → (∀ y, named y → names y request = true) →
        scope.covers request = true := by
  obtain ⟨s, rfl, hwide | ⟨x, y, hprinted, hx, hy⟩⟩ := h
  · refine ⟨⟨.everything, none, ""⟩, ?_, fun _ _ _ => rfl⟩
    rw [ofValue?_text]
    exact ofText?_eq_some_iff.mpr ⟨hwide, rfl, rfl⟩
  · obtain ⟨granted, rfl⟩ : ∃ granted, x = actionSegment granted := by
      rcases hx with rfl | rfl
      · exact ⟨none, rfl⟩
      · exact ⟨some action, rfl⟩
    rw [← join_three] at hprinted
    have hlast : IsSegment y := by
      rcases hy with rfl | hy
      · exact isSegment_actionSegment none
      · exact hsegment y hy
    obtain ⟨hspelling, hformed⟩ := onSegment_spelling known granted hlast
    refine ⟨onSegment known granted y, ?_, ?_⟩
    · rw [ofValue?_text]
      refine ofText?_eq_some_iff.mpr ⟨?_, hformed⟩
      unfold printed
      rw [hspelling, hprinted]
    · rintro request rfl hnames
      exact covers_onSegment hx (hy.imp_right (hnames y))

/-- **What a permission opens.** Some scope of a permission covers a request exactly if the
permission is for the action of the request on everything, or on a segment that names its category
or secret. The known categories play no part. -/
theorem exists_covering_iff {known : List String} {permission : Value} {request : Request} :
    (∃ scope, ofValue? known permission = some scope ∧ scope.covers request = true) ↔
      Opens request.action (fun y => IsSegment y ∧ names y request = true) permission := by
  constructor
  · rintro ⟨scope, hscope, hcovers⟩
    unfold ofValue? at hscope
    obtain ⟨s, hs, hread⟩ := Option.bind_eq_some_iff.mp hscope
    obtain ⟨hprinted, hformed⟩ := ofText?_eq_some_iff.mp hread
    refine ⟨s, ?_, ?_⟩
    · cases permission <;> cases hs
      rfl
    · rw [hprinted]
      obtain ⟨kind, action, value⟩ := scope
      cases kind
      case everything => exact Or.inl rfl
      case everySecret =>
        exact Or.inr ⟨_, _, join_three _ _, allows_iff.mp hcovers, Or.inl rfl⟩
      case category =>
        obtain ⟨hallows, hnames⟩ := Bool.and_eq_true_iff.mp hcovers
        exact Or.inr ⟨_, _, join_three _ _, allows_iff.mp hallows, Or.inr ⟨hformed.1, hnames⟩⟩
      case oneSecret =>
        obtain ⟨hallows, hnames⟩ := Bool.and_eq_true_iff.mp hcovers
        exact Or.inr ⟨_, _, join_three _ _, allows_iff.mp hallows, Or.inr ⟨hformed.1, hnames⟩⟩
  · intro h
    obtain ⟨scope, hscope, hcovers⟩ := exists_scope_of_opens known (fun _ hy => hy.1) h
    exact ⟨scope, hscope, hcovers request rfl fun _ hy => hy.2⟩

/-! ### Lists of permissions -/

/-- **Reading on**: each permission adds its scope behind those that are there, or else a report. -/
theorem foldl_readNext (lowered : List String) (permissions : List Value)
    (sofar : List Scope × List Journal.Entry) :
    permissions.foldl (readNext lowered) sofar =
      (sofar.1 ++ permissions.filterMap (ofValue? lowered),
       sofar.2 ++
        (permissions.filter fun p => (ofValue? lowered p).isNone).map ignoredEntry) := by
  induction permissions generalizing sofar with
  | nil => simp
  | cons permission rest ih =>
    rw [List.foldl_cons, ih]
    unfold readNext
    rcases hscope : ofValue? lowered permission with _ | scope <;> simp [hscope]

/-- One loop reads as much as two passes: one for the scopes, and one for the reports. -/
theorem ofValues_eq_passes (known : List String) (permissions : List Value) :
    ofValues known permissions =
      (permissions.filterMap (ofValue? (known.map Text.lower)),
       (permissions.filter fun p => (ofValue? (known.map Text.lower) p).isNone).map
        ignoredEntry) := by
  unfold ofValues
  rw [foldl_readNext, List.nil_append, List.nil_append]

/-- Some scope of a list of permissions covers a request exactly if one of the permissions opens
it. -/
theorem firstCovering_isSome_iff {known : List String} {permissions : List Value}
    {request : Request} :
    (firstCovering (ofValues known permissions).1 request).isSome = true ↔
      ∃ permission ∈ permissions,
        Opens request.action (fun y => IsSegment y ∧ names y request = true) permission := by
  unfold firstCovering
  rw [ofValues_eq_passes, List.find?_isSome]
  constructor
  · rintro ⟨scope, hscope, hcovers⟩
    obtain ⟨permission, hpermission, hread⟩ := List.mem_filterMap.mp hscope
    exact ⟨permission, hpermission, exists_covering_iff.mp ⟨scope, hread, hcovers⟩⟩
  · rintro ⟨permission, hpermission, hopens⟩
    obtain ⟨scope, hread, hcovers⟩ := exists_covering_iff.mpr hopens
    exact ⟨scope, List.mem_filterMap.mpr ⟨permission, hpermission, hread⟩, hcovers⟩

end Scope

end SecretAccess
