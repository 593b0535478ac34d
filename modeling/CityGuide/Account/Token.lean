import CityGuide.Account.UserType
import CityGuide.Crypto.Base64
import CityGuide.Crypto.Hmac
import CityGuide.Json.Scalar
import CityGuide.Json.Writer
import CityGuide.Text.Blank
import CityGuide.Text.Utf8

namespace CityGuide.Token

open Crypto Json.Decode Json.Shape

def issuer : String := "locali"

/-- What a token says; `jti` names the session and `sub` the account. -/
structure Claims where
  iss : String
  sub : String
  iat : Int
  exp : Int
  jti : String
  userType : UserType
  deriving DecidableEq, Repr

namespace Claims

def toJson (c : Claims) : Json :=
  .record [("iss", .text c.iss), ("sub", .text c.sub), ("iat", .int c.iat), ("exp", .int c.exp),
    ("jti", .text c.jti), ("user_type", c.userType.toJson)]

def decode : Json.Decoder Claims :=
  (Claims.mk <$> required "iss" text <*> required "sub" text <*> required "iat" (signedWord 64)
    <*> required "exp" (signedWord 64) <*> required "jti" text
    <*> required "user_type" UserType.decode).decode

end Claims

inductive Refusal where
  | incomplete
  | malformed
  | algorithm
  | signature
  | noExpiry
  | expired
  | issuer
  deriving DecidableEq, Repr

namespace Refusal

def message : Refusal → String
  | incomplete | malformed | algorithm | signature | noExpiry | expired | issuer => "invalid token"

end Refusal

inductive Algorithm where
  | hs256
  | other
  deriving DecidableEq, Repr

def Algorithm.ofName? : String → Option Algorithm
  | "HS256" => some .hs256
  | "HS384" | "HS512" | "ES256" | "ES384" | "RS256" | "RS384" | "RS512" | "PS256" | "PS384"
  | "PS512" | "EdDSA" => some .other
  | _ => none

def publicKey : Json.Decoder Unit
  | .record ms => ignore (.record ms)
  | d => .error (misfit d)

def header : Json.Decoder Algorithm :=
  ((fun _ a _ _ _ _ _ _ _ _ => a) <$> optional "typ" text
    <*> required "alg" (choice Algorithm.ofName?) <*> optional "cty" text <*> optional "jku" text
    <*> optional "jwk" publicKey <*> optional "kid" text <*> optional "x5u" text
    <*> optional "x5c" (list text) <*> optional "x5t" text <*> optional "x5t#S256" text).decode

def plainly : Json.Decoder Unit
  | .list (_ :: _) | .record (_ :: _) => .error .malformed
  | .broken | .text none | .number none => .error .malformed
  | .list [] | .record [] | .null | .bool _ | .number (some _) | .text (some _) => .ok ()

def anything : Json.Decoder Unit := fun d =>
  match d.toValue? with
  | some _ => .ok ()
  | none => .error .malformed

def registered : Json.Decoder Unit :=
  ((fun _ _ _ _ _ => ()) <$> defaulted "exp" () anything <*> defaulted "nbf" () plainly
    <*> defaulted "sub" () anything <*> defaulted "iss" () anything
    <*> defaulted "aud" () anything).decode

-- An ill-formed byte reads like an escape that stands for no text.
def unreadable : List Char := ['\\', 'u', 'd', '8', '0', '0']

def textOfBytes (bs : Bytes) : List Char :=
  (Text.utf8Chars bs).flatMap fun
    | some c => [c]
    | none => unreadable

def decodePart {α : Type} (dec : Json.Decoder α) (cs : List Char) : Except Refusal α :=
  match Base64.decode .url cs with
  | none => .error .malformed
  | some bs => (Json.decodeChars dec (textOfBytes bs)).mapError fun _ => .malformed

def encodePart (j : Json) : List Char := Base64.encode .url (utf8 j.write)

def headerJson : Json := .record [("typ", .text "JWT"), ("alg", .text "HS256")]

def sign (secret : Bytes) (message : List Char) : List Char :=
  Base64.encode .url (hmac secret (utf8 (String.ofList message)))

def encode (secret : Bytes) (c : Claims) : List Char :=
  let message := encodePart headerJson ++ '.' :: encodePart c.toJson
  message ++ '.' :: sign secret message

structure Parts where
  header : List Char
  payload : List Char
  signature : List Char

namespace Parts

def ofChars? (cs : List Char) : Option Parts := do
  let (message, signature) ← Text.cutLast '.' cs
  let (header, payload) ← Text.cutLast '.' message
  some ⟨header, payload, signature⟩

def message (p : Parts) : List Char := p.header ++ '.' :: p.payload

end Parts

def require (holds : Bool) (why : Refusal) : Except Refusal Unit :=
  if holds then .ok () else .error why

def leeway : Int := 60

def verify (secret : Bytes) (now : Time.Instant) (token : String) : Except Refusal Claims := do
  let parts ← match Parts.ofChars? token.toList with
    | some parts => .ok parts
    | none => .error .incomplete
  let algorithm ← decodePart header parts.header
  require (algorithm = .hs256) .algorithm
  require (parts.signature = sign secret parts.message) .signature
  let claims ← decodePart Claims.decode parts.payload
  decodePart registered parts.payload
  require (0 ≤ claims.exp) .noExpiry
  require (now.seconds - leeway ≤ claims.exp) .expired
  require (claims.iss = issuer) .issuer
  .ok claims

def longestSpan : Nat := 9223372036854775

-- Nothing when the lifetime exceeds every span or leads beyond the calendar.
def expiresAt (lifetime : UInt64) (now : Time.Instant) : Option Time.Instant :=
  if lifetime.toNat ≤ longestSpan then now.plusSeconds lifetime.toNat else none

structure Issued where
  accessToken : String
  expiresIn : Int
  expiresAt : Time.Instant
  deriving DecidableEq, Repr

namespace Issued

def toJson (t : Issued) : Json :=
  .record [("access_token", .text t.accessToken), ("token_type", .text "Bearer"),
    ("expires_in", .int t.expiresIn), ("expires_at", .time t.expiresAt)]

end Issued

def claimsFor (userId : Uuid) (userType : UserType) (sessionId : Uuid)
    (issuedAt expiresAt : Time.Instant) : Claims :=
  ⟨issuer, userId.text, issuedAt.seconds, expiresAt.seconds, sessionId.text, userType⟩

def issue (secret : Bytes) (userId : Uuid) (userType : UserType) (sessionId : Uuid)
    (issuedAt expiresAt : Time.Instant) : Issued where
  accessToken := String.ofList
    (encode secret (claimsFor userId userType sessionId issuedAt expiresAt))
  expiresIn := Time.Instant.secondsSince expiresAt issuedAt
  expiresAt := expiresAt

end CityGuide.Token
