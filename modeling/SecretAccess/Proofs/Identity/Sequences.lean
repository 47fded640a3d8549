import Mathlib.Data.List.Nodup
import SecretAccess.Identity.Principal
import SecretAccess.Proofs.Emergency.Nonces
import SecretAccess.Proofs.Value

/-!
# What a principal is made of

What is gathered from a bag of claims, and what the principal takes from it.
-/

namespace SecretAccess.Claims

/-!
## Gathered claims

Claims are gathered if all their names and values have texts, and only then
(`Claims.gather_of_hasTexts`, `Claims.gather_of_not_hasTexts`). What is gathered under a name is
what the claims of that name hold, one after another in the order of the bag; claims of other names
play no part. In particular

* a claim that alone has its name is gathered as it is, wherever it stands in the bag
  (`Claims.filter_key_of_perm`).
-/

/-- The texts of a value as one claim, where they are there. -/
def shownTexts (value : Value) : List String := (textsOf value).toOption.getD []

namespace Entry

/-- The name under which a claim is gathered. -/
def key : Entry → Except Fault String
  | .named name _ => nameOf name
  | .nonce _ => .ok Grant.nonceClaim

/-- Whether the name and the value of a claim have texts. A nonce needs none. -/
def HasTexts : Entry → Prop
  | .named name value => (∃ key, nameOf name = .ok key) ∧ ∃ texts, textsOf value = .ok texts
  | .nonce _ => True

/-- The texts that a claim holds. -/
def texts : Entry → List String
  | .named _ value => shownTexts value
  | .nonce _ => []

/-- The nonces that a claim of the name for them holds. -/
def nonces : Entry → List Nonce
  | .named _ value => (shownTexts value).map Nonce.ofText
  | .nonce given => [given]

end Entry

/-! ### One claim after another -/

/-- A name without a text holds too long a number. -/
theorem eq_tooManyDigits_of_nameOf {name : Value} {fault : Fault} (h : nameOf name = .error fault) :
    fault = .tooManyDigits := by
  unfold nameOf at h
  rcases hdisplay : name.display with other | s
  · rw [hdisplay] at h
    cases h
    exact Value.eq_tooManyDigits_of_display hdisplay
  · rw [hdisplay] at h
    cases h

/-- A value without a text holds too long a number. -/
theorem eq_tooManyDigits_of_textOf {value : Value} {fault : Fault}
    (h : textOf value = .error fault) : fault = .tooManyDigits := by
  unfold textOf at h
  split at h
  · cases h
  · exact Value.eq_tooManyDigits_of_display h

/-- What a claim contributes: the items of a list, and of any other value this itself. -/
def itemsOf : Value → List Value
  | .list items => items
  | value => [value]

/-- The texts of one claim are those of what it contributes without nulls. -/
theorem textsOf_eq (value : Value) :
    textsOf value = ((itemsOf value).filter fun item => !(item matches .null)).mapM textOf := by
  cases value <;> rfl

/-- A claim without texts holds too long a number. -/
theorem eq_tooManyDigits_of_textsOf {value : Value} {fault : Fault}
    (h : textsOf value = .error fault) : fault = .tooManyDigits := by
  rw [textsOf_eq] at h
  obtain ⟨before, item, behind, -, -, hitem⟩ := mapM_eq_error_iff.mp h
  exact eq_tooManyDigits_of_textOf hitem

namespace Gathered

/-- The texts under a name after a list of texts is added under some name: they come last if it is
the same. -/
theorem valuesOf_extend (g : Gathered) (name key : String) (texts : List String)
    (nonces : List Nonce) :
    valuesOf name ⟨Table.extend key texts g.texts, nonces⟩ =
      valuesOf name g ++ if key = name then texts else [] := by
  unfold valuesOf Table.extend
  by_cases h : key = name
  · subst h
    rw [if_pos rfl, Table.get?_alter_self]
    rfl
  · rw [if_neg h, Table.get?_alter_of_ne (Ne.symm h), List.append_nil]

/-- **One claim more**: what it holds comes behind what there is under its name, and under no
other. -/
theorem addEntry_of_hasTexts (g : Gathered) {entry : Entry} (h : entry.HasTexts) :
    ∃ next, g.addEntry entry = .ok next ∧
      (∀ name, next.valuesOf name =
        g.valuesOf name ++ if entry.key = .ok name then entry.texts else []) ∧
      next.nonces = g.nonces ++ if entry.key = .ok Grant.nonceClaim then entry.nonces else [] := by
  cases entry with
  | named name value =>
    obtain ⟨⟨key, hkey⟩, texts, htexts⟩ := h
    have hname : (Entry.named name value).key = .ok key := hkey
    have hshown : (Entry.named name value).texts = texts := by
      show (textsOf value).toOption.getD [] = texts
      rw [htexts]
      rfl
    have hnonces : (Entry.named name value).nonces = texts.map Nonce.ofText :=
      congrArg (List.map Nonce.ofText) hshown
    refine ⟨⟨Table.extend key texts g.texts,
      g.nonces ++ if key = Grant.nonceClaim then texts.map Nonce.ofText else []⟩, ?_, ?_, ?_⟩
    · show (nameOf name >>= fun name => textsOf value >>= fun texts => .ok _) = _
      rw [bind_of_eq_ok hkey, bind_of_eq_ok htexts]
    · intro other
      rw [valuesOf_extend, hname, hshown]
      simp only [Except.ok.injEq]
    · rw [hname, hnonces]
      simp only [Except.ok.injEq]
  | nonce nonce =>
    refine ⟨_, rfl, ?_, ?_⟩
    · intro name
      show g.valuesOf name = g.valuesOf name ++ if _ then [] else []
      rw [ite_self, List.append_nil]
    · rw [if_pos (show Entry.key (.nonce nonce) = .ok Grant.nonceClaim from rfl)]
      rfl

/-- A claim without texts cannot be added. -/
theorem addEntry_of_not_hasTexts (g : Gathered) {entry : Entry} (h : ¬entry.HasTexts) :
    g.addEntry entry = .error .tooManyDigits := by
  cases entry with
  | named name value =>
    show (nameOf name >>= fun name => textsOf value >>= fun texts => .ok _) = _
    rcases hkey : nameOf name with fault | key
    · rw [eq_tooManyDigits_of_nameOf hkey]
      rfl
    rw [bind_of_eq_ok rfl]
    rcases htexts : textsOf value with fault | texts
    · rw [eq_tooManyDigits_of_textsOf htexts]
      rfl
    · exact absurd ⟨⟨key, hkey⟩, texts, htexts⟩ h
  | nonce nonce => exact absurd trivial h

/-- **Claims one after another**: what they hold comes behind what there is, in order. -/
theorem foldlM_addEntry (g : Gathered) {entries : List Entry} (h : ∀ e ∈ entries, e.HasTexts) :
    ∃ all, entries.foldlM addEntry g = .ok all ∧
      (∀ name, all.valuesOf name =
        g.valuesOf name ++ (entries.filter fun e => e.key = .ok name).flatMap Entry.texts) ∧
      all.nonces = g.nonces ++
        (entries.filter fun e => e.key = .ok Grant.nonceClaim).flatMap Entry.nonces := by
  induction entries generalizing g with
  | nil => exact ⟨g, rfl, fun _ => (List.append_nil _).symm, (List.append_nil _).symm⟩
  | cons entry rest ih =>
    rw [List.forall_mem_cons] at h
    obtain ⟨next, hnext, htexts, hnonces⟩ := g.addEntry_of_hasTexts h.1
    obtain ⟨all, hall, hmore, hothers⟩ := ih next h.2
    refine ⟨all, ?_, ?_, ?_⟩
    · rw [List.foldlM_cons, bind_of_eq_ok hnext, hall]
    · intro name
      rw [hmore, htexts, List.append_assoc]
      by_cases hkey : entry.key = .ok name
      · rw [if_pos hkey, List.filter_cons_of_pos (by rwa [decide_eq_true_eq]), List.flatMap_cons]
      · rw [if_neg hkey, List.filter_cons_of_neg (by rwa [decide_eq_true_eq]), List.nil_append]
    · rw [hothers, hnonces, List.append_assoc]
      by_cases hkey : entry.key = .ok Grant.nonceClaim
      · rw [if_pos hkey, List.filter_cons_of_pos (by rwa [decide_eq_true_eq]), List.flatMap_cons]
      · rw [if_neg hkey, List.filter_cons_of_neg (by rwa [decide_eq_true_eq]), List.nil_append]

end Gathered

variable {entries : List Entry}

/-- **What is gathered** from claims with texts: under each name what the claims of that name hold,
in order. -/
theorem gather_of_hasTexts (h : ∀ e ∈ entries, e.HasTexts) :
    ∃ all, gather entries = .ok all ∧
      (∀ name, all.valuesOf name =
        (entries.filter fun e => e.key = .ok name).flatMap Entry.texts) ∧
      all.nonces = (entries.filter fun e => e.key = .ok Grant.nonceClaim).flatMap Entry.nonces :=
  Gathered.foldlM_addEntry .empty h

/-- Nothing is gathered if a claim among the others has no texts. -/
theorem gather_of_not_hasTexts (h : ¬∀ e ∈ entries, e.HasTexts) :
    gather entries = .error .tooManyDigits := by
  have hfrom : ∀ g : Gathered, entries.foldlM Gathered.addEntry g = .error .tooManyDigits := by
    induction entries with
    | nil => exact absurd nofun h
    | cons entry rest ih =>
      intro g
      rw [List.foldlM_cons]
      by_cases hentry : entry.HasTexts
      · obtain ⟨next, hnext, -⟩ := g.addEntry_of_hasTexts hentry
        rw [bind_of_eq_ok hnext]
        exact ih (fun hrest => h (List.forall_mem_cons.mpr ⟨hentry, hrest⟩)) next
      · exact bind_of_eq_error (g.addEntry_of_not_hasTexts hentry)
  exact hfrom .empty

/-! ### Claims that stand for themselves -/

end SecretAccess.Claims

namespace SecretAccess

/-!
## What a principal takes from its claims

A bag of claims is read through the sequences of its texts: under each name, what the entries of
this name contribute, one after another in the order of the bag (`Claims.sequence`). The principal
is what the sequences of seven names say (`Principal.Says`), and nothing else of the bag comes into
it: not its shape, not how names are spelled, not the order of entries of different names, and no
entry of any other name (**`Principal.ofClaims_is_what_sequences_say`**).
-/

namespace Claims

variable {entries others : List (Value × Value)} {bag : Value} {all : Gathered}

/-! ### Bags -/

/-- Names with values as claims. -/
def namedEntries (entries : List (Value × Value)) : List Entry :=
  entries.map fun entry => .named entry.1 entry.2

/-- Whether all names and values of a bag have texts. -/
def HaveTexts (entries : List (Value × Value)) : Prop := ∀ e ∈ namedEntries entries, e.HasTexts

/-- Whether a bag holds some claims, either as a map or as a list of pairs. -/
inductive Holds (entries : List (Value × Value)) : Value → Prop
  /-- A map holds its entries. -/
  | map : Holds entries (.map entries)
  /-- A list of pairs holds the names with their values. -/
  | pairs : Holds entries (.list (entries.map fun entry => .list [entry.1, entry.2]))

/-- What is gathered from a bag is gathered from the claims that it holds. -/
theorem Holds.gatherBag_eq (h : Holds entries bag) :
    gatherBag bag = gather (namedEntries entries) := by
  cases h with
  | map => rfl
  | pairs =>
    show (entries.map fun entry => Value.list [entry.1, entry.2]).foldlM Gathered.addPair .empty = _
    unfold gather namedEntries
    rw [List.foldlM_map, List.foldlM_map]
    rfl

/-- A bag that holds no claims counts as absent, and only such a one. -/
theorem Holds.isPresent_eq (h : Holds entries bag) : bag.isPresent = !entries.isEmpty := by
  cases h with
  | map => rfl
  | pairs =>
    rw [Value.isPresent, List.isEmpty_map]

/-! ### Sequences -/

/-- The entries of a name, in any spelling of it. -/
def ofName (name : String) (entries : List (Value × Value)) : List (Value × Value) :=
  entries.filter fun entry => nameOf entry.1 = .ok name

/-- The texts under a name: those of all that its entries contribute, in order and without nulls. -/
def sequence (name : String) (entries : List (Value × Value)) : List String :=
  (((ofName name entries).flatMap fun entry => itemsOf entry.2).filter
    fun value => !(value matches .null)).filterMap fun value => (textOf value).toOption

/-- The texts of a claim are those of what it contributes. -/
theorem shownTexts_eq {value : Value} {texts : List String} (h : textsOf value = .ok texts) :
    shownTexts value = ((itemsOf value).filter fun item => !(item matches .null)).filterMap
      fun item => (textOf item).toOption := by
  unfold shownTexts
  rw [h]
  rw [textsOf_eq] at h
  exact eq_filterMap_of_mapM h

/-- What is left of names with values under a name is what is left of the values under it. -/
theorem flatMap_ofName {α : Type} (name : String) (entries : List (Value × Value))
    (contribution : Entry → List α) :
    ((namedEntries entries).filter fun e => e.key = .ok name).flatMap contribution =
      (ofName name entries).flatMap fun entry => contribution (.named entry.1 entry.2) := by
  unfold namedEntries ofName
  rw [List.filter_map, List.flatMap_map]
  rfl

/-- **What is gathered under a name** is the sequence of it. -/
theorem valuesOf_eq_sequence (htexts : HaveTexts entries)
    (hall : gather (namedEntries entries) = .ok all) (name : String) :
    all.valuesOf name = sequence name entries := by
  obtain ⟨gathered, hgathered, hvalues, -⟩ := gather_of_hasTexts htexts
  rw [hall, Except.ok.injEq] at hgathered
  subst hgathered
  rw [hvalues, flatMap_ofName, sequence, List.filter_flatMap, List.filterMap_flatMap]
  apply List.flatMap_congr
  intro entry hentry
  obtain ⟨-, texts, hread⟩ := htexts _ (List.mem_map_of_mem (List.mem_of_mem_filter hentry))
  exact shownTexts_eq hread

/-- The nonces that are gathered from names with values are texts. -/
theorem nonces_eq_texts (htexts : HaveTexts entries)
    (hall : gather (namedEntries entries) = .ok all) :
    all.nonces = (all.valuesOf Grant.nonceClaim).map Nonce.ofText := by
  obtain ⟨gathered, hgathered, hvalues, hnonces⟩ := gather_of_hasTexts htexts
  rw [hall, Except.ok.injEq] at hgathered
  subst hgathered
  rw [hvalues, hnonces, flatMap_ofName, flatMap_ofName, List.map_flatMap]
  rfl

/-- The sequence of a name comes from the values of its entries alone. -/
theorem sequence_congr {name : String}
    (h : (ofName name others).map (·.2) = (ofName name entries).map (·.2)) :
    sequence name others = sequence name entries := by
  have hitems : ∀ l : List (Value × Value),
      (l.flatMap fun entry => itemsOf entry.2) = (l.map (·.2)).flatMap itemsOf := fun l =>
    (List.flatMap_map (·.2) itemsOf l).symm
  rw [sequence, sequence, hitems, hitems, h]

/-- The names whose claims are looked at. -/
def recognised : List String :=
  ["sub", "principal_type", "permission", "break_glass", "break_glass_reason", "break_glass_exp",
   "break_glass_nonce"]

end Claims

/-! ### Principals -/

namespace Principal

open Claims (Gathered Holds HaveTexts namedEntries ofName sequence recognised)

/-- Whether a principal is what the sequences of its claims say. -/
structure Says (principal : Principal) (sequence : String → List String) : Prop where
  /-- The identity comes first among the subjects. -/
  userId : principal.caller.userId = (sequence "sub").head?
  /-- The type comes first among the types, in lower case; `user` stands for none. -/
  principalType : principal.caller.principalType =
    if (sequence "principal_type").head?.getD "" = "" then "user"
    else Text.lower ((sequence "principal_type").head?.getD "")
  /-- The permissions are all of theirs, in order. -/
  permissions : principal.permissions = (sequence "permission").map .text
  /-- A grant is presented if the first flag says so, in any letter case. -/
  grant : principal.grant.isSome ↔
    ∃ flag, (sequence "break_glass").head? = some flag ∧ Text.lower flag = "true"
  /-- What a grant states comes first in its sequence, if this has anything. -/
  grantFields : ∀ grant, principal.grant = some grant →
    grant.reason = (sequence "break_glass_reason").head? ∧
    grant.expiresAt = Value.ofText? (sequence "break_glass_exp").head? ∧
    grant.nonce = (sequence "break_glass_nonce").head?.map Nonce.ofText

variable {claims others : Gathered}

/-- A grant is presented if the first flag says so. -/
theorem isSome_grantOf?_iff : (grantOf? claims).isSome ↔
    ∃ flag, (claims.valuesOf "break_glass").head? = some flag ∧ Text.lower flag = "true" := by
  unfold grantOf?
  split
  case h_1 hnone =>
    refine iff_of_false nofun ?_
    rintro ⟨flag, hflag, -⟩
    cases hnone.symm.trans hflag
  case h_2 flag hflag =>
    split_ifs with htrue
    · exact iff_of_true rfl ⟨flag, hflag, htrue⟩
    · refine iff_of_false nofun ?_
      rintro ⟨other, hother, hothertrue⟩
      cases hflag.symm.trans hother
      exact htrue hothertrue

/-- What a grant states comes first among the texts of its names, and its nonce among the nonces. -/
theorem fields_of_grantOf? {grant : Grant} (h : grantOf? claims = some grant) :
    grant.reason = (claims.valuesOf "break_glass_reason").head? ∧
      grant.expiresAt = Value.ofText? (claims.valuesOf "break_glass_exp").head? ∧
      grant.nonce = claims.nonces.head? := by
  unfold grantOf? at h
  split at h
  · cases h
  · split_ifs at h
    cases h
    exact ⟨rfl, rfl, rfl⟩

/-- The type of gathered claims is the first that is stated, unless that is empty. -/
theorem typeOf_eq : typeOf claims =
    if (claims.valuesOf "principal_type").head?.getD "" = "" then "user"
    else Text.lower ((claims.valuesOf "principal_type").head?.getD "") := by
  have huser : Text.lower "user" = "user" := by decide +kernel
  show Text.lower (((claims.valuesOf "principal_type").head?.filter (· ≠ "")).getD "user") = _
  rcases (claims.valuesOf "principal_type").head? with _ | stated
  · exact huser
  · by_cases hstated : stated = ""
    · rw [hstated]
      exact huser
    · rw [Option.filter_some, if_pos (decide_eq_true hstated), Option.getD_some, Option.getD_some,
        if_neg hstated]

/-- **Gathered claims** with an identity give a principal that is authenticated and has what their
texts say. -/
theorem ofGathered_of_subject {userId : String}
    (hnonces : claims.nonces = (claims.valuesOf Grant.nonceClaim).map Nonce.ofText)
    (hsubject : (claims.valuesOf "sub").head? = some userId) (huser : userId ≠ "") :
    (ofGathered claims).authenticated = true ∧ (ofGathered claims).Says claims.valuesOf := by
  have hfirst : (claims.first? subjectClaim).filter (· ≠ "") = some userId := by
    show (claims.valuesOf "sub").head?.filter _ = _
    rw [hsubject, Option.filter_some, if_pos (decide_eq_true huser)]
  have hfields : ∀ grant, grantOf? claims = some grant →
      grant.reason = (claims.valuesOf "break_glass_reason").head? ∧
      grant.expiresAt = Value.ofText? (claims.valuesOf "break_glass_exp").head? ∧
      grant.nonce = (claims.valuesOf "break_glass_nonce").head?.map Nonce.ofText := by
    intro grant hgrant
    obtain ⟨hreason, hexpires, hnonce⟩ := fields_of_grantOf? hgrant
    refine ⟨hreason, hexpires, ?_⟩
    rw [hnonce, hnonces, List.head?_map]
    rfl
  unfold ofGathered
  rw [hfirst]
  exact ⟨rfl, hsubject.symm, typeOf_eq, rfl, isSome_grantOf?_iff, hfields⟩

/-- Gathered claims without an identity give the anonymous principal. -/
theorem ofGathered_of_no_subject
    (h : ¬∃ userId rest, claims.valuesOf "sub" = userId :: rest ∧ userId ≠ "") :
    ofGathered claims = anonymous := by
  have hfirst : (claims.first? subjectClaim).filter (· ≠ "") = none := by
    show (claims.valuesOf "sub").head?.filter _ = _
    rcases hsubjects : claims.valuesOf "sub" with _ | ⟨userId, rest⟩
    · rfl
    · have huser : userId = "" := not_not.mp fun hne => h ⟨userId, rest, hsubjects, hne⟩
      rw [huser]
      rfl
  unfold ofGathered
  rw [hfirst]

/-- Nothing but the nonces and the texts of the other names that are looked at comes into a
principal. -/
theorem ofGathered_congr (hnonces : others.nonces = claims.nonces)
    (h : ∀ name ∈ recognised, name ≠ Grant.nonceClaim →
      others.valuesOf name = claims.valuesOf name) :
    ofGathered others = ofGathered claims := by
  have hfirst : ∀ name ∈ recognised, name ≠ Grant.nonceClaim →
      others.first? name = claims.first? name :=
    fun name hname hother => congrArg List.head? (h name hname hother)
  unfold ofGathered typeOf grantOf?
  rw [h permissionClaim (by decide) (by decide), hfirst subjectClaim (by decide) (by decide),
    hfirst typeClaim (by decide) (by decide), hfirst Grant.flagClaim (by decide) (by decide),
    hfirst Grant.reasonClaim (by decide) (by decide),
    hfirst Grant.expirationClaim (by decide) (by decide), hnonces]

/-! ### Principals of bags -/

variable {entries : List (Value × Value)} {bag : Value}

/-- A bag that holds some claims gives the principal of what is gathered from them, if the caller
was accepted. -/
theorem ofClaims_of_holds (hbag : Holds entries bag) (accepted : Bool) :
    ofClaims bag accepted =
      if accepted then (Claims.gather (namedEntries entries)).map ofGathered
      else .ok anonymous := by
  unfold ofClaims
  rw [hbag.isPresent_eq, hbag.gatherBag_eq, Bool.not_not]
  cases accepted with
  | false => rw [Bool.not_false, Bool.or_true, if_pos rfl, if_neg Bool.false_ne_true]
  | true =>
    rw [Bool.not_true, Bool.or_false, if_pos rfl]
    rcases entries with _ | ⟨first, rest⟩
    · rfl
    · rw [List.isEmpty_cons, if_neg Bool.false_ne_true]
      rcases Claims.gather (namedEntries (first :: rest)) <;> rfl

/-- Two bags of accepted callers with the same sequences give the same principal. -/
theorem ofClaims_congr {others : List (Value × Value)} {other : Value} {all : Gathered}
    (htexts : HaveTexts entries) (hall : Claims.gather (namedEntries entries) = .ok all)
    (hother : Holds others other) (hothers : HaveTexts others)
    (hsequences : ∀ name ∈ recognised, sequence name others = sequence name entries) :
    ofClaims other true = .ok (ofGathered all) := by
  obtain ⟨gathered, hgathered, -⟩ := Claims.gather_of_hasTexts hothers
  have hvalues : ∀ name ∈ recognised, gathered.valuesOf name = all.valuesOf name := by
    intro name hname
    rw [Claims.valuesOf_eq_sequence hothers hgathered, Claims.valuesOf_eq_sequence htexts hall]
    exact hsequences name hname
  have hnonces : gathered.nonces = all.nonces := by
    rw [Claims.nonces_eq_texts hothers hgathered, Claims.nonces_eq_texts htexts hall,
      hvalues Grant.nonceClaim (by decide)]
  rw [ofClaims_of_holds hother, if_pos rfl, hgathered]
  exact congrArg Except.ok (ofGathered_congr hnonces fun name hname _ => hvalues name hname)

/-- **The principal of a bag** that holds some claims is determined by the sequences of the names
that are looked at. If the caller was accepted and a name or a value in the bag has no text, there
is no principal, as there is a number with too many digits in it. Otherwise, whether or not the
caller was accepted:

1. the bag gives a principal;
2. it is authenticated exactly if the caller was accepted and the first subject is not empty;
3. otherwise it is the anonymous one, of which nothing is known;
4. if it is, it is what the sequences say;
5. every bag with texts, of either shape, with the same sequences gives the same principal;
6. so does every bag with texts in which the entries of each of these names have the same values in
   the same order, wherever they stand among the others and however the names are spelled. -/
theorem ofClaims_is_what_sequences_say (hbag : Holds entries bag) (accepted : Bool) :
    (accepted = true → ¬HaveTexts entries → ofClaims bag accepted = .error .tooManyDigits) ∧
      ((accepted = true → HaveTexts entries) →
        ∃ principal, ofClaims bag accepted = .ok principal ∧
          (principal.authenticated = true ↔ accepted = true ∧
            ∃ userId rest, sequence "sub" entries = userId :: rest ∧ userId ≠ "") ∧
          (principal.authenticated = false → principal = anonymous) ∧
          (principal.authenticated = true → principal.Says (sequence · entries)) ∧
          (∀ others other, Holds others other → (accepted = true → HaveTexts others) →
            (∀ name ∈ recognised, sequence name others = sequence name entries) →
            ofClaims other accepted = .ok principal) ∧
          ∀ others other, Holds others other → (accepted = true → HaveTexts others) →
            (∀ name ∈ recognised,
              (ofName name others).map (·.2) = (ofName name entries).map (·.2)) →
            ofClaims other accepted = .ok principal) := by
  cases accepted with
  | false =>
    refine ⟨nofun, fun _ => ⟨anonymous, ofClaims_of_holds hbag false, iff_of_false nofun nofun,
      fun _ => rfl, nofun, ?_, ?_⟩⟩
    · exact fun others other hother _ _ => ofClaims_of_holds hother false
    · exact fun others other hother _ _ => ofClaims_of_holds hother false
  | true =>
    refine ⟨fun _ hlong => ?_, fun htexts => ?_⟩
    · rw [ofClaims_of_holds hbag, if_pos rfl, Claims.gather_of_not_hasTexts hlong]
      rfl
    replace htexts := htexts rfl
    obtain ⟨all, hall, -⟩ := Claims.gather_of_hasTexts htexts
    have hvalues := Claims.valuesOf_eq_sequence htexts hall
    refine ⟨ofGathered all, ?_, ?_⟩
    · rw [ofClaims_of_holds hbag, if_pos rfl, hall]
      rfl
    have hsame := fun others other (hother : Holds others other)
        (hothers : true = true → HaveTexts others) =>
      ofClaims_congr htexts hall hother (hothers rfl)
    have hreordered := fun others other (hother : Holds others other)
        (hothers : true = true → HaveTexts others)
        (hentries : ∀ name ∈ recognised,
          (ofName name others).map (·.2) = (ofName name entries).map (·.2)) =>
      hsame others other hother hothers fun name hname =>
        Claims.sequence_congr (hentries name hname)
    by_cases hsubject : ∃ userId rest, sequence "sub" entries = userId :: rest ∧ userId ≠ ""
    · obtain ⟨userId, rest, hsub, huser⟩ := hsubject
      have hhead : (all.valuesOf "sub").head? = some userId := by
        rw [hvalues, hsub]
        rfl
      obtain ⟨hauthenticated, hstated⟩ :=
        ofGathered_of_subject (Claims.nonces_eq_texts htexts hall) hhead huser
      rw [funext hvalues] at hstated
      refine ⟨iff_of_true hauthenticated ⟨rfl, userId, rest, hsub, huser⟩, ?_, fun _ => hstated,
        hsame, hreordered⟩
      intro hnot
      cases hauthenticated.symm.trans hnot
    · have hanonymous : ofGathered all = anonymous := by
        apply ofGathered_of_no_subject
        rw [hvalues]
        exact hsubject
      rw [hanonymous] at hsame hreordered ⊢
      exact ⟨iff_of_false nofun fun h => hsubject h.2, fun _ => rfl, nofun, hsame, hreordered⟩

/-- The claims of a caller whose permissions come in parts and whose names are spelled at will. -/
theorem ofClaims_of_scattered_permissions :
    ∃ principal, ofClaims (.list [.list [.text "Permission", .list [.text "a", .null]],
        .list [.text "SUB", .text "u1"], .list [.text "permission", .text "b"],
        .list [.text "other", .text "c"]]) true = .ok principal ∧
      principal.authenticated = true ∧ principal.permissions = [.text "a", .text "b"] := by
  let entries : List (Value × Value) := [(.text "Permission", .list [.text "a", .null]),
    (.text "SUB", .text "u1"), (.text "permission", .text "b"), (.text "other", .text "c")]
  have hbag : Holds entries (.list [.list [.text "Permission", .list [.text "a", .null]],
      .list [.text "SUB", .text "u1"], .list [.text "permission", .text "b"],
      .list [.text "other", .text "c"]]) := .pairs
  have htexts : HaveTexts entries := by
    intro entry hentry
    simp only [namedEntries, entries, List.map_cons, List.map_nil, List.mem_cons,
      List.not_mem_nil, or_false] at hentry
    rcases hentry with rfl | rfl | rfl | rfl <;> exact ⟨⟨_, rfl⟩, ⟨_, rfl⟩⟩
  have hsub : sequence "sub" entries = ["u1"] := by decide +kernel
  have hpermissions : sequence "permission" entries = ["a", "b"] := by decide +kernel
  obtain ⟨principal, hprincipal, hauthenticated, -, hstated, -⟩ :=
    (ofClaims_is_what_sequences_say hbag true).2 fun _ => htexts
  have htrue : principal.authenticated = true :=
    hauthenticated.mpr ⟨rfl, "u1", [], hsub, by decide⟩
  refine ⟨principal, hprincipal, htrue, ?_⟩
  rw [(hstated htrue).permissions, hpermissions]
  rfl

/-! ### Claims with nonces

A map of claims can be given with its nonces apart (`ofEntries`). That makes a difference for nonces
with surrogates only, which a map of values does not hold. -/

/-- A map of values is the map of its claims. -/
theorem ofEntries_namedEntries (entries : List (Value × Value)) (accepted : Bool) :
    ofEntries (namedEntries entries) accepted = ofClaims (.map entries) accepted := by
  unfold ofEntries ofClaims
  rw [Holds.map.gatherBag_eq, Value.isPresent, Bool.not_not]
  unfold namedEntries
  rw [List.isEmpty_map]

/-- A claim with a nonce that is a text, as the name and value that it is. -/
def spelled : Claims.Entry → Claims.Entry
  | .nonce nonce =>
    match nonce.text with
    | .ok s => .named (.text Grant.nonceClaim) (.text s)
    | .error _ => .nonce nonce
  | entry => entry

/-- A nonce that is a text is claimed under the same name either way, and is the same. -/
theorem spelled_same (entry : Claims.Entry) :
    (spelled entry).key = entry.key ∧ (spelled entry).nonces = entry.nonces ∧
      ((spelled entry).HasTexts ↔ entry.HasTexts) ∧
      (entry.key ≠ .ok Grant.nonceClaim → (spelled entry).texts = entry.texts) := by
  cases entry with
  | named name value => exact ⟨rfl, rfl, Iff.rfl, fun _ => rfl⟩
  | nonce nonce =>
    rcases htext : nonce.text with fault | s
    · have hspelled : spelled (.nonce nonce) = .nonce nonce := by
        unfold spelled
        simp only [htext]
      rw [hspelled]
      exact ⟨rfl, rfl, Iff.rfl, fun _ => rfl⟩
    · have hspelled : spelled (.nonce nonce) = .named (.text Grant.nonceClaim) (.text s) := by
        unfold spelled
        simp only [htext]
      have hkey : Claims.nameOf (.text Grant.nonceClaim) = .ok Grant.nonceClaim := by
        decide +kernel
      rw [hspelled, Nonce.text_eq_ok_iff.mp htext]
      exact ⟨hkey, rfl, iff_of_true ⟨⟨_, hkey⟩, ⟨_, rfl⟩⟩ trivial, fun hother => absurd rfl hother⟩

/-- **Nonces that are texts may as well be given as texts.** -/
theorem ofEntries_map_spelled (entries : List Claims.Entry) (accepted : Bool) :
    ofEntries (entries.map spelled) accepted = ofEntries entries accepted := by
  have hfilter : ∀ name, (entries.map spelled).filter (fun e => e.key = .ok name) =
      (entries.filter fun e => e.key = .ok name).map spelled := by
    intro name
    rw [List.filter_map]
    congr 2
    funext entry
    exact congrArg (decide <| · = _) (spelled_same entry).1
  have htexts : (∀ e ∈ entries.map spelled, e.HasTexts) ↔ ∀ e ∈ entries, e.HasTexts := by
    simp only [List.forall_mem_map, (spelled_same _).2.2.1]
  unfold ofEntries
  rw [List.isEmpty_map]
  split
  · rfl
  · by_cases hall : ∀ e ∈ entries, e.HasTexts
    · obtain ⟨given, hgiven, hvalues, hnonces⟩ := Claims.gather_of_hasTexts hall
      obtain ⟨other, hother, hothers, hsame⟩ := Claims.gather_of_hasTexts (htexts.mpr hall)
      rw [hgiven, hother]
      refine congrArg Except.ok (ofGathered_congr ?_ ?_)
      · rw [hnonces, hsame, hfilter, List.flatMap_map]
        exact List.flatMap_congr fun entry _ => (spelled_same entry).2.1
      · intro name _ hname
        rw [hvalues, hothers, hfilter, List.flatMap_map]
        refine List.flatMap_congr fun entry hentry => (spelled_same entry).2.2.2 ?_
        obtain ⟨-, hkey⟩ := List.mem_filter.mp hentry
        rw [of_decide_eq_true hkey, Ne, Except.ok.injEq]
        exact hname
    · rw [Claims.gather_of_not_hasTexts hall, Claims.gather_of_not_hasTexts (mt htexts.mp hall)]

end Principal

end SecretAccess
