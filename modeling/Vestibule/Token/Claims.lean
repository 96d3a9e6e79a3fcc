import Vestibule.Id.Entity
import Vestibule.Identity.User
import Vestibule.Session.Session

/-! What an access token states. -/

namespace Vestibule

structure AccessClaims where
  subject : String
  issuer : String
  audience : List String
  expires : Int64
  issued : Int64
  notBefore : Int64
  tokenId : String
  session : String
  organization : String
  email : String
  primaryAuthFactor : PrimaryAuthFactor
  deriving DecidableEq, Repr

namespace AccessClaims

/-- The claims of a session and its user, from now until they expire. -/
def new (id : Uuid) (now : Instant) (session : Session) (user : User) (issuer : String)
    (expire : Instant) : AccessClaims where
  subject := EntityKind.user.formatId user.id
  issuer := issuer
  audience := []
  expires := Int64.ofInt expire.seconds
  issued := Int64.ofInt now.seconds
  notBefore := Int64.ofInt now.seconds
  tokenId := toString id
  session := EntityKind.session.formatId session.id
  organization := EntityKind.organization.formatId user.organizationId
  email := user.email
  primaryAuthFactor := session.primaryAuthFactor

def userId? (c : AccessClaims) : Option Uuid := (EntityKind.user.parseId c.subject).toOption

def sessionId? (c : AccessClaims) : Option Uuid := (EntityKind.session.parseId c.session).toOption

def organizationId? (c : AccessClaims) : Option Uuid :=
  (EntityKind.organization.parseId c.organization).toOption

/-- What the claims refer to, null where a claim is no identifier. -/
def references (c : AccessClaims) : List (String × Json) :=
  [("user_id", .ofOption .ofUuid c.userId?), ("session_id", .ofOption .ofUuid c.sessionId?),
    ("organization_id", .ofOption .ofUuid c.organizationId?)]

def isExpired (c : AccessClaims) (now : Instant) : Bool := c.expires.toInt ≤ now.seconds

/-- The time of expiry, or the epoch where that is out of range. -/
def expiresAt (c : AccessClaims) : Instant := (Instant.ofUnix? c.expires.toInt 0).getD .epoch

def fields : List String :=
  ["sub", "iss", "aud", "exp", "iat", "nbf", "jti", "session", "organization", "email",
    "primary_auth_factor"]

/-- An empty audience is left out. -/
def members (c : AccessClaims) : List (String × Json) :=
  [("sub", .string c.subject), ("iss", .string c.issuer)] ++
    (if c.audience.isEmpty then [] else [("aud", .array (c.audience.map .string))]) ++
    [("exp", .int c.expires.toInt),
      ("iat", .int c.issued.toInt),
      ("nbf", .int c.notBefore.toInt),
      ("jti", .string c.tokenId),
      ("session", .string c.session),
      ("organization", .string c.organization),
      ("email", .string c.email),
      ("primary_auth_factor", c.primaryAuthFactor.toJson)]

def toJson (c : AccessClaims) : Json := .object c.members

def ofJson? (j : Json) : Option AccessClaims := do
  let r ← Row.ofJson? fields j
  return {
    subject := ← r.required "sub" Json.string?
    issuer := ← r.required "iss" Json.string?
    audience := ← r.defaulted "aud" [] Json.strings?
    expires := ← r.required "exp" Json.int64?
    issued := ← r.required "iat" Json.int64?
    notBefore := ← r.required "nbf" Json.int64?
    tokenId := ← r.required "jti" Json.string?
    session := ← r.required "session" Json.string?
    organization := ← r.required "organization" Json.string?
    email := ← r.required "email" Json.string?
    primaryAuthFactor := ← r.required "primary_auth_factor" PrimaryAuthFactor.ofJson? }

end AccessClaims

end Vestibule
