import SecretAccess.Text.Characters
import SecretAccess.Text.Written
import SecretAccess.Value

/-!
# Emergency grants and their nonces

An emergency grant carries a nonce, of which only a digest is kept.
-/

namespace SecretAccess.Digest

/-!
## The SHA-256 digest

The 256-bit secure hash over bytes. The message is padded to whole blocks of 64 bytes; each block is
stretched to 64 words, which are worked one after another into eight chaining words.
-/

/-! ### Constants -/

/-- The chaining words before the first block. -/
def startWords : List UInt32 :=
  [0x6a09e667, 0xbb67ae85, 0x3c6ef372, 0xa54ff53a, 0x510e527f, 0x9b05688c, 0x1f83d9ab, 0x5be0cd19]

/-- The word that each of the 64 rounds adds. -/
def roundWords : List UInt32 :=
  [0x428a2f98, 0x71374491, 0xb5c0fbcf, 0xe9b5dba5, 0x3956c25b, 0x59f111f1, 0x923f82a4, 0xab1c5ed5,
   0xd807aa98, 0x12835b01, 0x243185be, 0x550c7dc3, 0x72be5d74, 0x80deb1fe, 0x9bdc06a7, 0xc19bf174,
   0xe49b69c1, 0xefbe4786, 0x0fc19dc6, 0x240ca1cc, 0x2de92c6f, 0x4a7484aa, 0x5cb0a9dc, 0x76f988da,
   0x983e5152, 0xa831c66d, 0xb00327c8, 0xbf597fc7, 0xc6e00bf3, 0xd5a79147, 0x06ca6351, 0x14292967,
   0x27b70a85, 0x2e1b2138, 0x4d2c6dfc, 0x53380d13, 0x650a7354, 0x766a0abb, 0x81c2c92e, 0x92722c85,
   0xa2bfe8a1, 0xa81a664b, 0xc24b8b70, 0xc76c51a3, 0xd192e819, 0xd6990624, 0xf40e3585, 0x106aa070,
   0x19a4c116, 0x1e376c08, 0x2748774c, 0x34b0bcb5, 0x391c0cb3, 0x4ed8aa4a, 0x5b9cca4f, 0x682e6ff3,
   0x748f82ee, 0x78a5636f, 0x84c87814, 0x8cc70208, 0x90befffa, 0xa4506ceb, 0xbef9a3f7, 0xc67178f2]

/-! ### Words -/

/-- A word turned right by some bits. -/
def rotateRight (w : UInt32) (bits : UInt32) : UInt32 := (w >>> bits) ||| (w <<< (32 - bits))

/-- Words of four bytes each, the highest byte first; the end of a list that fills no word is
dropped. -/
def wordsOf : List UInt8 → List UInt32
  | a :: b :: c :: d :: rest =>
    ((a.toUInt32 <<< 24) ||| (b.toUInt32 <<< 16) ||| (c.toUInt32 <<< 8) ||| d.toUInt32) ::
      wordsOf rest
  | _ => []

/-- The four bytes of a word, the highest first. -/
def bytesOf (w : UInt32) : List UInt8 :=
  [(w >>> 24).toUInt8, (w >>> 16).toUInt8, (w >>> 8).toUInt8, w.toUInt8]

/-! ### Padding -/

/-- The `count` lowest bytes of a number, the highest first. -/
def numberBytes : Nat → Nat → List UInt8
  | 0, _ => []
  | count + 1, n => numberBytes count (n / 256) ++ [UInt8.ofNat n]

/-- The message followed by a one bit, zero bits up to a whole number of blocks, and the number of
its bits in eight bytes. -/
def padded (message : List UInt8) : List UInt8 :=
  message ++ 0x80 :: List.replicate ((119 - message.length % 64) % 64) 0 ++
    numberBytes 8 (8 * message.length)

/-! ### Blocks -/

/-- Add words in front of a stretched block, the latest word first. -/
def stretch : Nat → List UInt32 → List UInt32
  | 0, words => words
  | count + 1, words =>
    let near := words.getD 14 0
    let far := words.getD 1 0
    let mixNear := rotateRight near 7 ^^^ rotateRight near 18 ^^^ (near >>> 3)
    let mixFar := rotateRight far 17 ^^^ rotateRight far 19 ^^^ (far >>> 10)
    stretch count ((words.getD 15 0 + mixNear + words.getD 6 0 + mixFar) :: words)

/-- The 64 words of a block of sixteen. -/
def schedule (block : List UInt32) : List UInt32 := (stretch 48 block.reverse).reverse

/-- Work one word of a block, with the word of its round, into the chaining words. -/
def round (state : List UInt32) (words : UInt32 × UInt32) : List UInt32 :=
  match state with
  | [a, b, c, d, e, f, g, h] =>
    let mixE := rotateRight e 6 ^^^ rotateRight e 11 ^^^ rotateRight e 25
    let choice := (e &&& f) ^^^ (~~~e &&& g)
    let first := h + mixE + choice + words.1 + words.2
    let mixA := rotateRight a 2 ^^^ rotateRight a 13 ^^^ rotateRight a 22
    let majority := (a &&& b) ^^^ (a &&& c) ^^^ (b &&& c)
    [first + (mixA + majority), a, b, c, d + first, e, f, g]
  | other => other

/-- Work one block into the chaining words. -/
def compress (state : List UInt32) (block : List UInt32) : List UInt32 :=
  List.zipWith (· + ·) state ((roundWords.zip (schedule block)).foldl round state)

/-- Work a number of blocks into the chaining words. -/
def absorb : Nat → List UInt32 → List UInt32 → List UInt32
  | 0, _, state => state
  | count + 1, words, state => absorb count (words.drop 16) (compress state (words.take 16))

/-- The 32 bytes of the digest of a message. -/
def sha256 (message : List UInt8) : List UInt8 :=
  let words := wordsOf (padded message)
  (absorb (words.length / 16) words startWords).flatMap bytesOf

end SecretAccess.Digest

namespace SecretAccess

/-!
## Nonces

An emergency grant carries a nonce, a text that is accepted once. Outside of the request that
presents it, only its fingerprint is ever kept or reported.

The fingerprint is taken of the bytes of the text, and **not every text has bytes**: claims come in
a notation that can spell surrogates, the halves of a character in another encoding, by themselves.
A nonce may hold them like any other text from outside, but no fingerprint can be taken of it.
-/

/-- A surrogate: one of the 2048 code points between `U+D800` and `U+DFFF`, which are no
characters. -/
structure Surrogate where
  /-- Its place among the surrogates. -/
  place : Fin 2048
  deriving Repr, DecidableEq

/-- The code point of a surrogate. -/
def Surrogate.codePoint (s : Surrogate) : Nat := 0xD800 + s.place

/-- A nonce as it comes in: characters, and surrogates that stand by themselves. -/
structure Nonce where
  /-- The characters and surrogates in order. -/
  points : List (Char ⊕ Surrogate)
  deriving Repr, DecidableEq

namespace Nonce

/-! ### Texts and nonces -/

/-- A text as a nonce. -/
def ofText (s : String) : Nonce := ⟨s.toList.map .inl⟩

instance : Coe String Nonce := ⟨ofText⟩

/-- Whether a place of a nonce is blank; a surrogate is not. -/
def isBlankPoint : Char ⊕ Surrogate → Bool
  | .inl c => Text.isBlank c
  | .inr _ => false

/-- A nonce without the blanks at its two ends. -/
def strip (nonce : Nonce) : Nonce :=
  ⟨((nonce.points.dropWhile isBlankPoint).reverse.dropWhile isBlankPoint).reverse⟩

/-- Whether there is nothing in a nonce. -/
def isEmpty (nonce : Nonce) : Bool := nonce.points.isEmpty

/-- How many surrogates stand at the beginning. -/
def leadingSurrogates : List (Char ⊕ Surrogate) → Nat
  | .inr _ :: rest => leadingSurrogates rest + 1
  | _ => 0

/-- The characters from a place on, or the first run of surrogates among them. -/
def charsFrom (place : Nat) : List (Char ⊕ Surrogate) → Except Fault (List Char)
  | [] => .ok []
  | .inl c :: rest => do return c :: (← charsFrom (place + 1) rest)
  | .inr s :: rest => .error (.surrogates s.codePoint place (leadingSurrogates rest + 1))

/-- The text that a nonce is, if it is one of characters and so has bytes. -/
def text (nonce : Nonce) : Except Fault String := do
  return String.ofList (← charsFrom 0 nonce.points)

/-! ### Fingerprints -/

/-- Bytes as lower-case hexadecimal text, two digits a byte. -/
def hexText (bytes : List UInt8) : String :=
  String.ofList (bytes.flatMap fun b => Text.hexChars 2 b.toNat)

/-- The fingerprint of a text: 64 hexadecimal digits of the digest of its bytes. -/
def fingerprintOf (s : String) : String := hexText (Digest.sha256 s.toUTF8.toList)

/-- The fingerprint of a nonce. -/
def fingerprint (nonce : Nonce) : Except Fault String := do return fingerprintOf (← nonce.text)

/-! ### Fresh nonces -/

/-- How many random bytes a fresh nonce holds. -/
def entropySize : Nat := 16

/-- The nonce made of random bytes. -/
def ofEntropy (entropy : Vector UInt8 entropySize) : String := hexText entropy.toList

/-- Whether a text has the shape of a fresh nonce. -/
def isFreshShape (nonce : String) : Bool := Text.isHexText (2 * entropySize) nonce

end Nonce

/-!
## Claims

The authentication layer hands over what it knows of a caller as claims, each a name and a value. A
nonce is the only claim whose text is ever turned into bytes, so it is the only one for which a text
with surrogates is told from any other.
-/

/-- One claim of a bag. -/
inductive Claims.Entry
  /-- A name with a value. -/
  | named (name value : Value)
  /-- The claim with the nonce of a grant, place by place. -/
  | nonce (nonce : Nonce)
  deriving Repr

/-!
## Emergency grants

An emergency grant replaces ordinary permissions once and for a short time. It is presented with the
claims of a caller and not trusted: the expiration is whatever value came in, and is judged only in
`SecretAccess.Emergency.Judgement`. `Grant.mint` is the issuer's side, the claims of a new grant.
-/

/-- An emergency grant as it is presented. -/
structure Grant where
  /-- Why it was issued; reported only. -/
  reason : Option String
  /-- When it expires, in seconds of Unix time, as it came in; null if it did not. -/
  expiresAt : Value
  /-- The text that is accepted once. -/
  nonce : Option Nonce
  deriving Repr

namespace Grant

/-- The claim that says whether there is a grant. -/
def flagClaim : String := "break_glass"

/-- The claim with the reason of a grant. -/
def reasonClaim : String := "break_glass_reason"

/-- The claim with the expiration of a grant. -/
def expirationClaim : String := "break_glass_exp"

/-- The claim with the nonce of a grant. -/
def nonceClaim : String := "break_glass_nonce"

/-- The claims of a new grant that expires a lifetime after it is issued. Where no nonce or an empty
one is given, a fresh one is used. -/
def mint (reason : Option String) (nonce : Option Nonce) (fresh : String)
    (lifetime issuedAt : Number) : Except Fault (List Claims.Entry) := do
  let expiration ← Number.boundedText (← (← issuedAt.add lifetime).trunc)
  return [.named (.text flagClaim) (.text "true"),
    .named (.text reasonClaim) (Value.ofText? reason),
    .named (.text expirationClaim) (.text expiration),
    .nonce ((nonce.filter (!·.isEmpty)).getD fresh)]

end Grant

end SecretAccess
