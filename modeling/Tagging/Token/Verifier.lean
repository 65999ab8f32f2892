import Tagging.Json.Decoder
import Tagging.Text.Basic
import Tagging.Text.Bytes
import Tagging.Time.Instant
import Tagging.Token.Sha256

/-!
# Tokens

What tokens say, and which of them are accepted.
-/

namespace Tagging

/-!
## Claims

The user that a token speaks for, and the roles that the user acts in.
-/

/-- The user and the roles that a token names. -/
structure Claims where
  subject : String
  roles : List String
  deriving DecidableEq, Repr

namespace Claims

/-- The fields of the claims as they are read. -/
structure Form where
  subject : Option String
  roles : Option (List String)

/-- How claims are read. Without roles there are none. -/
def schema : Json.Schema Form Claims where
  empty := ⟨none, none⟩
  slots := [
    Json.slot "sub" (·.subject) (fun form value ↦ { form with subject := some value })
      Json.Decoder.text false,
    Json.slot "roles" (·.roles) (fun form value ↦ { form with roles := some value })
      (Json.Decoder.listOf Json.Decoder.text) true]
  finish form := do some ⟨← form.subject, form.roles.getD []⟩

/-- Reads claims. -/
def decoder : Json.Decoder Claims :=
  schema.decode

end Claims

end Tagging

namespace Tagging.Token.Key

/-!
## Keys that come with a token

A header may hold a public key. It is not used, but a token is refused if its key is not in order:
the fields that all keys share are as they should be, and the others fit one type of key.
-/

open Json (Decoder Draft Schema Slot mention outline)

/-- One of several words. -/
def word (words : List String) : Decoder Unit :=
  Decoder.named fun name ↦ if words.contains name then some () else none

/-- Nothing: the word `null`, or an object without members. -/
def blank : Decoder Unit
  | .null | .object .closed => .ok ()
  | draft => .error draft.unexpected

/-- The names of the algorithms that a key may be meant for. -/
def algorithms : List String :=
  ["HS256", "HS384", "HS512", "ES256", "ES384", "RS256", "RS384", "RS512", "PS256", "PS384",
    "PS512", "EdDSA", "RSA1_5", "RSA-OAEP", "RSA-OAEP-256"]

/-- The name of an algorithm, which may also be the only key of an object that holds nothing. -/
def algorithm : Decoder Unit :=
  let known? (name : String) : Option Unit := if algorithms.contains name then some () else none
  Decoder.choice known? fun name ↦ (known? name).map fun () ↦ blank

/-- The fields that all keys share. None is needed. -/
def common : Schema (List String) Unit :=
  let optional {α : Type} (name : String) (decode : Decoder α) :=
    mention name (Decoder.optional decode)
  outline [
    optional "use" Decoder.text,
    optional "key_ops" (Decoder.listOf Decoder.text),
    optional "alg" algorithm,
    optional "kid" Decoder.text,
    optional "x5u" Decoder.text,
    optional "x5c" (Decoder.listOf Decoder.text),
    optional "x5t" Decoder.text,
    optional "x5t#S256" Decoder.text] []

/-- The name of the curve that a key lies on. -/
def curve : Slot (List String) :=
  mention "crv" (word ["P-256", "P-384", "P-521", "Ed25519"])

/-- The fields of a key of one type: some of a kind of their own, and texts. All are needed. -/
def form (type : String) (others : List (Slot (List String))) (texts : List String) :
    Schema (List String) Unit :=
  let slots := mention "kty" (word [type]) :: others ++ texts.map (mention · Decoder.text)
  outline slots (slots.map (·.name))

/-- The fields of each type of key. -/
def forms : List (Schema (List String) Unit) :=
  [form "EC" [curve] ["x", "y"], form "RSA" [] ["n", "e"], form "oct" [] ["k"],
    form "OKP" [curve] ["x"]]

/-- Reads a key: an object without flaws that has the shared fields and those of one type. -/
def decoder : Decoder Unit
  | .object members =>
    let draft := Draft.object members
    if draft.isSound Json.maxFieldDepth && common.accepts draft && forms.any (·.accepts draft) then
      .ok ()
    else .error .mismatch
  | draft => .error draft.unexpected

end Tagging.Token.Key

namespace Tagging.Token

/-!
## The header of a token

It names the way in which the token is signed. The only way known is HMAC with SHA-256.
-/

open Json (Decoder Draft Items mention)

/-- How a header is checked. Fields other than the algorithm are not looked at, but must be in order
if they are there. -/
def headerSchema : Json.Schema (List String) Unit :=
  let optional {α : Type} (name : String) (decode : Decoder α) :=
    mention name (Decoder.optional decode)
  Json.outline [
    optional "typ" Decoder.text,
    mention "alg" (Key.word ["HS256"]),
    optional "cty" Decoder.text,
    optional "jku" Decoder.text,
    optional "jwk" Key.decoder,
    optional "kid" Decoder.text,
    optional "x5u" Decoder.text,
    optional "x5c" (Decoder.listOf Decoder.text),
    optional "x5t" Decoder.text,
    optional "x5t#S256" Decoder.text] ["alg"]

/-- Reads a header that names HMAC with SHA-256. -/
def header : Decoder Unit :=
  headerSchema.decode

/-!
## The terms of a token

A payload may say until when its token is good, from when on, by whom it was issued and whom it is
meant for. What stands there need not make sense, as long as reading comes to its end.
-/

/-- When a token is good, and whether it is meant for someone in particular. -/
structure Terms where
  expiry : Option (Option Nat)
  start : Option (Option Nat)
  issuer : Option Unit
  audience : Option Bool

/-- The whole number next to a size, if it fits 64 bits. -/
def roundSeconds? (size : Float) : Option Nat :=
  if size < 18446744073709551616.0 then some size.round.toUInt64.toNat else none

/-- The whole seconds that a number gives, if any: fractions are rounded. -/
def secondsOf (number : Json.Number) : Option Nat :=
  match number.natural? with
  | some n => some n
  | none => do
    let size ← number.size?
    guard (!number.negative || size == 0)
    roundSeconds? size

/-- Seconds, or `none` for what is no number of seconds but does no harm: it is read to its end. -/
def seconds : Decoder (Option Nat)
  | .number number =>
    match number.flaw? with
    | some .early => .error .malformed
    | _ => .ok (secondsOf number)
  | .null | .truth _ | .text (.ok _) | .text (.error .late) | .list .closed | .object .closed =>
    .ok none
  | _ => .error .mismatch

/-- Any value that is read to its end. -/
def issuer : Decoder Unit := fun draft ↦
  match draft.flaw? Json.maxFieldDepth with
  | some .early => .error .malformed
  | _ => .ok ()

/-- Every item is a text. -/
def allTexts : Items → Bool
  | .closed => true
  | .item (.text _) rest => allTexts rest
  | _ => false

/-- The value names an audience: it is a text or a list of texts. -/
def namesAudience : Draft → Bool
  | .text _ => true
  | .list items => allTexts items
  | _ => false

/-- Whether an audience is named. A flawed value names none, but must be read to its end. -/
def audience : Decoder Bool := fun draft ↦
  match draft.flaw? Json.maxFieldDepth with
  | some .early => .error .malformed
  | some .late => .ok false
  | none => .ok (namesAudience draft)

/-- How the terms are read. Each may be missing. -/
def termsSchema : Json.Schema Terms Terms where
  empty := ⟨none, none, none, none⟩
  slots := [
    Json.slot "exp" (·.expiry) (fun terms value ↦ { terms with expiry := some value })
      seconds false,
    Json.slot "nbf" (·.start) (fun terms value ↦ { terms with start := some value })
      seconds false,
    Json.slot "iss" (·.issuer) (fun terms value ↦ { terms with issuer := some value })
      issuer false,
    Json.slot "aud" (·.audience) (fun terms value ↦ { terms with audience := some value })
      audience false]
  finish := some

/-- Reads the terms of an object. -/
def terms : Decoder Terms
  | .object members => termsSchema.decode (.object members)
  | draft => .error draft.unexpected

/-- The seconds for which a token is good beyond its expiry. -/
def leeway : Nat := 60

/-- The token has an expiry, and is good at the given time. -/
def Terms.isCurrent (terms : Terms) (now : Instant) : Bool :=
  match terms.expiry with
  | some (some expiry) => now.seconds ≤ expiry + leeway
  | _ => false

/-!
## Signed tokens

A token has three parts with dots between them: a header, a payload, and the authentication code of
the first two under a shared secret. A verifier answers the claims of the payload, or nothing.
-/

/-- What tokens are checked against. -/
structure Verifier where
  secret : String
  /-- Tokens must have an expiry that has not passed. -/
  checksExpiry : Bool
  deriving DecidableEq, Repr

/-- The header, the payload and the signature of a token. -/
def parts? (token : List Char) : Option (List Char × List Char × List Char) := do
  let (message, signature) ← Text.splitLast? '.' token
  let (header, payload) ← Text.splitLast? '.' message
  some (header, payload, signature)

/-- The signature of a message under a secret. -/
def signature (secret : String) (message : List Char) : List Char :=
  Text.Base64Url.encode
    (Sha256.authenticate (Text.Utf8.encode secret) (Text.Utf8.encode (String.ofList message)))

/-- The value of one kind that a part of a token holds. -/
def content? {α : Type} (decode : Json.Decoder α) (part : List Char) : Option α := do
  let bytes ← Text.Base64Url.decode part
  (Json.readInput decode (Text.Utf8.decode bytes)).toOption

/-- The claims of a token, if it is signed under the secret, not meant for an audience, and, where
that is asked for, not expired. -/
def Verifier.verify (verifier : Verifier) (now : Instant) (token : String) : Option Claims := do
  let (head, payload, signed) ← parts? token.toList
  let () ← content? header head
  guard (signed = signature verifier.secret (head ++ '.' :: payload))
  let claims ← content? Claims.decoder payload
  let terms ← content? terms payload
  guard (terms.audience ≠ some true)
  guard (!verifier.checksExpiry || terms.isCurrent now)
  some claims

end Tagging.Token
