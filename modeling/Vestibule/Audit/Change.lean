import Vestibule.Audit.Event
import Vestibule.Login.Factor

/-! The changes that are audited, and the event each of them becomes. -/

namespace Vestibule.Audit

/-- A step on an intermediate session. -/
inductive IntermediateSessionChange where
  | passwordRegistered (intermediateSessionId organizationId : Uuid)
  | passwordVerified (intermediateSessionId organizationId : Uuid)
  | passwordLogin (intermediateSessionId organizationId userId : Uuid)
  | passwordResetCodeIssued (intermediateSessionId : Uuid) (emailQuotaUsage : Int)
  | passwordResetCodeVerified (intermediateSessionId : Uuid)
  | emailVerificationChallengeIssued (intermediateSessionId : Uuid) (email : String)
      (emailQuotaUsage : Int)
  | emailVerified (intermediateSessionId : Uuid) (email : String)
  | oauthRedirectIssued (intermediateSessionId : Uuid) (target : OAuthTarget)
  | oauthCodeRedeemed (intermediateSessionId : Uuid) (target : OAuthTarget) (email : String)
      (emailVerified : Bool)
  | samlAssertionRedeemed (intermediateSessionId samlConnectionId : Uuid) (email : String)
  deriving DecidableEq, Repr

namespace IntermediateSessionChange

def tag : IntermediateSessionChange → String
  | passwordRegistered .. => "password_registered"
  | passwordVerified .. => "password_verified"
  | passwordLogin .. => "password_login"
  | passwordResetCodeIssued .. => "password_reset_code_issued"
  | passwordResetCodeVerified .. => "password_reset_code_verified"
  | emailVerificationChallengeIssued .. => "email_verification_challenge_issued"
  | emailVerified .. => "email_verified"
  | oauthRedirectIssued .. => "oauth_redirect_issued"
  | oauthCodeRedeemed .. => "oauth_code_redeemed"
  | samlAssertionRedeemed .. => "saml_assertion_redeemed"

def eventName (c : IntermediateSessionChange) : String := "intermediate_sessions." ++ c.tag

def intermediateSessionId : IntermediateSessionChange → Uuid
  | passwordRegistered id _ | passwordVerified id _ | passwordLogin id _ _
  | passwordResetCodeIssued id _ | passwordResetCodeVerified id
  | emailVerificationChallengeIssued id _ _ | emailVerified id _ | oauthRedirectIssued id _
  | oauthCodeRedeemed id _ _ _ | samlAssertionRedeemed id _ _ => id

/-- The organization that the event is attributed to: only password steps name one. -/
def organizationId : IntermediateSessionChange → Option Uuid
  | passwordRegistered _ org | passwordVerified _ org | passwordLogin _ org _ => some org
  | _ => none

def members : IntermediateSessionChange → List (String × Json)
  | passwordRegistered id org | passwordVerified id org =>
    [("intermediate_session_id", .ofUuid id), ("organization_id", .ofUuid org)]
  | passwordLogin id org user =>
    [("intermediate_session_id", .ofUuid id), ("organization_id", .ofUuid org),
      ("user_id", .ofUuid user)]
  | passwordResetCodeIssued id usage =>
    [("intermediate_session_id", .ofUuid id), ("email_quota_usage", .int usage)]
  | passwordResetCodeVerified id => [("intermediate_session_id", .ofUuid id)]
  | emailVerificationChallengeIssued id email usage =>
    [("intermediate_session_id", .ofUuid id), ("email", .string email),
      ("email_quota_usage", .int usage)]
  | emailVerified id email =>
    [("intermediate_session_id", .ofUuid id), ("email", .string email)]
  | oauthRedirectIssued id target =>
    [("intermediate_session_id", .ofUuid id), ("target", target.toJson)]
  | oauthCodeRedeemed id target email verified =>
    [("intermediate_session_id", .ofUuid id), ("target", target.toJson), ("email", .string email),
      ("email_verified", .bool verified)]
  | samlAssertionRedeemed id connection email =>
    [("intermediate_session_id", .ofUuid id), ("saml_connection_id", .ofUuid connection),
      ("email", .string email)]

def toJson (c : IntermediateSessionChange) : Json := .ofTagged c.tag c.members

def ofJson? (j : Json) : Option IntermediateSessionChange := do
  let (tag, body) ← j.tagged?
  let row := fun names => Row.ofJson? ("intermediate_session_id" :: names) body
  let session := fun (r : Row) => r.required "intermediate_session_id" Json.uuid?
  let organization := fun (r : Row) => r.required "organization_id" Json.uuid?
  let email := fun (r : Row) => r.required "email" Json.string?
  let usage := fun (r : Row) => (r.required "email_quota_usage" Json.int64?).map Int64.toInt
  let target := fun (r : Row) => r.required "target" OAuthTarget.ofInnerJson?
  match tag with
  | "password_registered" =>
    let r ← row ["organization_id"]
    return passwordRegistered (← session r) (← organization r)
  | "password_verified" =>
    let r ← row ["organization_id"]
    return passwordVerified (← session r) (← organization r)
  | "password_login" =>
    let r ← row ["organization_id", "user_id"]
    return passwordLogin (← session r) (← organization r) (← r.required "user_id" Json.uuid?)
  | "password_reset_code_issued" =>
    let r ← row ["email_quota_usage"]
    return passwordResetCodeIssued (← session r) (← usage r)
  | "password_reset_code_verified" =>
    let r ← row []
    return passwordResetCodeVerified (← session r)
  | "email_verification_challenge_issued" =>
    let r ← row ["email", "email_quota_usage"]
    return emailVerificationChallengeIssued (← session r) (← email r) (← usage r)
  | "email_verified" =>
    let r ← row ["email"]
    return emailVerified (← session r) (← email r)
  | "oauth_redirect_issued" =>
    let r ← row ["target"]
    return oauthRedirectIssued (← session r) (← target r)
  | "oauth_code_redeemed" =>
    let r ← row ["target", "email", "email_verified"]
    return oauthCodeRedeemed (← session r) (← target r) (← email r)
      (← r.required "email_verified" Json.bool?)
  | "saml_assertion_redeemed" =>
    let r ← row ["saml_connection_id", "email"]
    return samlAssertionRedeemed (← session r) (← r.required "saml_connection_id" Json.uuid?)
      (← email r)
  | _ => none

def toEvent (c : IntermediateSessionChange) (id : Uuid) (now : Instant) (projectId : Uuid)
    (actor : Actor) : Event :=
  { Event.new id now projectId actor c.eventName c.toJson with
    organizationId := c.organizationId
    resourceType := some .intermediateSession
    resourceId := some c.intermediateSessionId }

end IntermediateSessionChange

/-- A failed password check. -/
inductive UserChange where
  | passwordAttemptFailed (userId organizationId : Uuid)
  | passwordLockedOut (userId organizationId : Uuid) (lockoutExpireTime : Instant)
  deriving DecidableEq, Repr

namespace UserChange

def tag : UserChange → String
  | passwordAttemptFailed .. => "password_attempt_failed"
  | passwordLockedOut .. => "password_locked_out"

def eventName (c : UserChange) : String := "users." ++ c.tag

def userId : UserChange → Uuid
  | passwordAttemptFailed user _ | passwordLockedOut user _ _ => user

def organizationId : UserChange → Uuid
  | passwordAttemptFailed _ org | passwordLockedOut _ org _ => org

def members : UserChange → List (String × Json)
  | passwordAttemptFailed user org =>
    [("user_id", .ofUuid user), ("organization_id", .ofUuid org)]
  | passwordLockedOut user org expire =>
    [("user_id", .ofUuid user), ("organization_id", .ofUuid org),
      ("lockout_expire_time", .ofInstant expire)]

def toJson (c : UserChange) : Json := .ofTagged c.tag c.members

def ofJson? (j : Json) : Option UserChange := do
  let (tag, body) ← j.tagged?
  match tag with
  | "password_attempt_failed" =>
    let r ← Row.ofJson? ["user_id", "organization_id"] body
    return passwordAttemptFailed (← r.required "user_id" Json.uuid?)
      (← r.required "organization_id" Json.uuid?)
  | "password_locked_out" =>
    let r ← Row.ofJson? ["user_id", "organization_id", "lockout_expire_time"] body
    return passwordLockedOut (← r.required "user_id" Json.uuid?)
      (← r.required "organization_id" Json.uuid?)
      (← r.required "lockout_expire_time" Json.instant?)
  | _ => none

def toEvent (c : UserChange) (id : Uuid) (now : Instant) (projectId : Uuid) (actor : Actor) :
    Event :=
  ((Event.new id now projectId actor c.eventName c.toJson).withOrganization
    c.organizationId).withResource .user c.userId

end UserChange

/-- A new session. -/
inductive SessionChange where
  | created (sessionId userId organizationId intermediateSessionId : Uuid)
      (primaryAuthFactor : PrimaryAuthFactor) (userCreated : Bool)
  deriving DecidableEq, Repr

namespace SessionChange

def eventName : SessionChange → String
  | created .. => "sessions.create"

def toJson : SessionChange → Json
  | created session user org intermediate factor userCreated =>
    .ofTagged "created"
      [("session_id", .ofUuid session),
        ("user_id", .ofUuid user),
        ("organization_id", .ofUuid org),
        ("intermediate_session_id", .ofUuid intermediate),
        ("primary_auth_factor", factor.toJson),
        ("user_created", .bool userCreated)]

def ofJson? (j : Json) : Option SessionChange := do
  let (tag, body) ← j.tagged?
  match tag with
  | "created" =>
    let r ← Row.ofJson? ["session_id", "user_id", "organization_id", "intermediate_session_id",
      "primary_auth_factor", "user_created"] body
    return created (← r.required "session_id" Json.uuid?) (← r.required "user_id" Json.uuid?)
      (← r.required "organization_id" Json.uuid?)
      (← r.required "intermediate_session_id" Json.uuid?)
      (← r.required "primary_auth_factor" PrimaryAuthFactor.ofInnerJson?)
      (← r.required "user_created" Json.bool?)
  | _ => none

def toEvent (c : SessionChange) (id : Uuid) (now : Instant) (projectId : Uuid) (actor : Actor) :
    Event :=
  match c with
  | created session _ org _ _ _ =>
    ((Event.new id now projectId actor c.eventName c.toJson).withOrganization org).withResource
      .session session

end SessionChange

/-- The event of a change of a family, where `change` is one. -/
def Event.ofChange? (family : ResourceType) (change : Json) (id : Uuid) (now : Instant)
    (projectId : Uuid) (actor : Actor) : Option Event :=
  match family with
  | .intermediateSession =>
    (IntermediateSessionChange.ofJson? change).map (·.toEvent id now projectId actor)
  | .user => (UserChange.ofJson? change).map (·.toEvent id now projectId actor)
  | .session => (SessionChange.ofJson? change).map (·.toEvent id now projectId actor)

end Vestibule.Audit
