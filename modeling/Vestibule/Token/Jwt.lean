import Vestibule.Error
import Vestibule.Json.Reader
import Vestibule.Json.Writer
import Vestibule.Token.Claims
import Vestibule.Token.Key
import Vestibule.Token.WebKey

/-! Access tokens as signed texts: a header, the claims and a signature, in base64 and joined by
points. -/

namespace Vestibule

/-- Signs and checks access tokens. -/
structure TokenIssuer where
  config : JwtConfig
  keys : JwtKeys
  deriving DecidableEq, Repr

namespace TokenIssuer

def ofConfig (c : JwtConfig) : Except ConfigError TokenIssuer := do
  return ⟨c, ← JwtKeys.ofConfig c⟩

def encodePart (j : Json) : List Char := Base64.encode .url (Utf8.encode j.render)

def header (t : TokenIssuer) : Json :=
  .object [("typ", .string "JWT"), ("alg", .string t.config.algorithm.name)]

def encode (t : TokenIssuer) (claims : AccessClaims) : Except RequestError String :=
  let message := encodePart t.header ++ '.' :: encodePart claims.toJson
  match t.config.algorithm.sign? t.keys (Utf8.encode (String.ofList message)) with
  | some signature => .ok (String.ofList (message ++ '.' :: Base64.encode .url signature))
  | none => .error (.internal .encodeToken)

/-- The text before and after the last point. -/
def splitLast? (text : List Char) : Option (List Char × List Char) :=
  let last := (text.reverse.takeWhile (· ≠ '.')).reverse
  if last.length = text.length then none
  else some (text.take (text.length - last.length - 1), last)

def decodePart? (part : List Char) : Option Json := do
  Json.scan? (← Base64.decode? .url part)

/-- The algorithms that a header may name. -/
def knownAlgorithms : List String :=
  ["HS256", "HS384", "HS512", "ES256", "ES384", "RS256", "RS384", "RS512", "PS256", "PS384",
    "PS512", "EdDSA"]

def headerFields : List String :=
  ["typ", "alg", "cty", "jku", "jwk", "kid", "x5u", "x5c", "x5t", "x5t#S256"]

/-- The algorithm that a header names. The fields beside it must be well formed, too. -/
def headerAlgorithm? (j : Json) : Option String := do
  let r ← Row.ofJson? headerFields j
  let _ ← r.optional "typ" Json.string?
  let alg ← r.required "alg" Json.caseName?
  let _ ← ["cty", "jku", "kid", "x5u", "x5t", "x5t#S256"].mapM fun name =>
    r.optional name Json.string?
  let _ ← r.optional "jwk" WebKey.ofJson?
  let _ ← r.optional "x5c" Json.strings?
  if knownAlgorithms.contains alg then some alg else none

/-- Tokens are taken for a minute past their expiry. -/
def leewaySeconds : UInt64 := 60

/-- The earliest expiry, in seconds since 1970, of a token that is still taken. The difference wraps
around, so no token is taken in the first minute of 1970. -/
def earliestExpiry (now : Instant) : UInt64 := UInt64.ofNat now.seconds.toNat - leewaySeconds

/-- The claims of a token, in the order of checks: its form, its algorithm, its signature, the form
of its claims, their expiry, issuer and audience. A token without an audience is for everyone. -/
def validate (t : TokenIssuer) (now : Instant) (token : String) :
    Except RequestError AccessClaims := do
  let malformed : RequestError := .unauthenticated .tokenMalformed
  let need := fun {α : Type} (a : Option α) =>
    (match a with
      | some a => .ok a
      | none => .error malformed : Except RequestError α)
  let (message, signature) ← need (splitLast? token.toList)
  let (head, payload) ← need (splitLast? message)
  let algorithm ← need ((decodePart? head).bind headerAlgorithm?)
  if algorithm ≠ t.config.algorithm.name then .error malformed
  let genuine ← need <|
    t.config.algorithm.check? t.keys (Utf8.encode (String.ofList message)) signature
  if ¬ genuine then .error (.unauthenticated .tokenSignature)
  let body ← need (decodePart? payload)
  let _ ← need body.object?
  let claims ← need (AccessClaims.ofJson? body)
  if claims.expires < 0 then .error malformed
  if claims.expires.toInt < (earliestExpiry now).toNat then
    .error (.unauthenticated .tokenExpired)
  if claims.issuer ≠ t.config.issuer then .error (.unauthenticated .tokenIssuer)
  if ¬ t.config.audience.isEmpty ∧ (body.member? "aud").isSome ∧
      ¬ claims.audience.any t.config.audience.contains then
    .error (.unauthenticated .tokenAudience)
  return claims

end TokenIssuer

end Vestibule
