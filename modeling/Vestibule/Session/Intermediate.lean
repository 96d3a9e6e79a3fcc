import Vestibule.Login.Factor

/-! Intermediate sessions: what a visitor has proved so far, before it is exchanged for a
session. -/

namespace Vestibule

structure IntermediateSession where
  id : Uuid
  projectId : Uuid
  organizationId : Option Uuid
  email : Option String
  emailChallengeCompleted : Bool
  emailChallengeSha256 : Option (List UInt8)
  passwordVerified : Bool
  passkeyVerified : Bool
  authenticatorAppVerified : Bool
  primaryAuthFactor : Option PrimaryAuthFactor
  oauthStateSha256 : Option (List UInt8)
  oauthStateTarget : Option OAuthTarget
  googleUserId : Option String
  googleHostedDomain : Option String
  microsoftUserId : Option String
  githubUserId : Option String
  verifiedSamlConnectionId : Option Uuid
  verifiedOidcConnectionId : Option Uuid
  displayName : Option String
  profilePictureUrl : Option String
  resetCodeSha256 : Option (List UInt8)
  resetCodeVerified : Bool
  /-- The hash of a password that waits to be attached to the user. -/
  stagedPasswordHash : Option String
  createTime : Instant
  expireTime : Instant
  exchangeTime : Option Instant
  deriving DecidableEq, Repr

namespace IntermediateSession

def new (id : Uuid) (now : Instant) (projectId : Uuid) (expire : Instant) :
    IntermediateSession where
  id := id
  projectId := projectId
  organizationId := none
  email := none
  emailChallengeCompleted := false
  emailChallengeSha256 := none
  passwordVerified := false
  passkeyVerified := false
  authenticatorAppVerified := false
  primaryAuthFactor := none
  oauthStateSha256 := none
  oauthStateTarget := none
  googleUserId := none
  googleHostedDomain := none
  microsoftUserId := none
  githubUserId := none
  verifiedSamlConnectionId := none
  verifiedOidcConnectionId := none
  displayName := none
  profilePictureUrl := none
  resetCodeSha256 := none
  resetCodeVerified := false
  stagedPasswordHash := none
  createTime := now
  expireTime := expire
  exchangeTime := none

def isExpired (s : IntermediateSession) (now : Instant) : Bool := ¬ now < s.expireTime

def isExchanged (s : IntermediateSession) : Bool := s.exchangeTime.isSome

/-- Founds the session on `factor`, unless it is already founded on one. -/
def fixPrimaryAuthFactor (s : IntermediateSession) (factor : PrimaryAuthFactor) :
    IntermediateSession :=
  if s.primaryAuthFactor.isSome then s else { s with primaryAuthFactor := some factor }

/-- The account at a provider that was redeemed on this session. -/
def providerSubject (s : IntermediateSession) : OAuthProvider → Option String
  | .google => s.googleUserId
  | .microsoft => s.microsoftUserId
  | .github => s.githubUserId

def setProviderSubject (s : IntermediateSession) (p : OAuthProvider) (subject : String) :
    IntermediateSession :=
  match p with
  | .google => { s with googleUserId := some subject }
  | .microsoft => { s with microsoftUserId := some subject }
  | .github => { s with githubUserId := some subject }

/-- The redeemed accounts: Google before Microsoft before GitHub. -/
def providerSubjects (s : IntermediateSession) : List (OAuthProvider × String) :=
  OAuthProvider.all.filterMap fun p => (s.providerSubject p).map (p, ·)

/-- Whether the session holds the evidence for `factor`. -/
def hasEvidence (s : IntermediateSession) : PrimaryAuthFactor → Bool
  | .password => s.passwordVerified
  | .email => s.emailChallengeCompleted
  | .google => s.googleUserId.isSome
  | .microsoft => s.microsoftUserId.isSome
  | .github => s.githubUserId.isSome
  | .saml => s.verifiedSamlConnectionId.isSome
  | .oidc => s.verifiedOidcConnectionId.isSome
  | .passkey => s.passkeyVerified
  | .authenticatorApp => s.authenticatorAppVerified

def primaryFactorSatisfied (s : IntermediateSession) : Bool :=
  s.primaryAuthFactor.any s.hasEvidence

/-- A passkey or an authenticator app counts only where it is not the primary factor itself. -/
def secondFactorSatisfied (s : IntermediateSession) : Bool :=
  (s.passkeyVerified && s.primaryAuthFactor != some .passkey) ||
    (s.authenticatorAppVerified && s.primaryAuthFactor != some .authenticatorApp)

def fields : List String :=
  ["id", "project_id", "organization_id", "email", "email_verification_challenge_completed",
    "email_verification_challenge_sha256", "password_verified", "passkey_verified",
    "authenticator_app_verified", "primary_auth_factor", "oauth_state_sha256",
    "oauth_state_target", "google_user_id", "google_hosted_domain", "microsoft_user_id",
    "github_user_id", "verified_saml_connection_id", "verified_oidc_connection_id",
    "display_name", "profile_picture_url", "password_reset_code_sha256",
    "password_reset_code_verified", "new_user_password_bcrypt", "create_time", "expire_time",
    "exchange_time"]

def members (s : IntermediateSession) : List (String × Json) :=
  [("id", .ofUuid s.id),
    ("project_id", .ofUuid s.projectId),
    ("organization_id", .ofOption .ofUuid s.organizationId),
    ("email", .ofOption .string s.email),
    ("email_verification_challenge_completed", .bool s.emailChallengeCompleted),
    ("email_verification_challenge_sha256", .ofOption .ofBytes s.emailChallengeSha256),
    ("password_verified", .bool s.passwordVerified),
    ("passkey_verified", .bool s.passkeyVerified),
    ("authenticator_app_verified", .bool s.authenticatorAppVerified),
    ("primary_auth_factor", .ofOption PrimaryAuthFactor.toJson s.primaryAuthFactor),
    ("oauth_state_sha256", .ofOption .ofBytes s.oauthStateSha256),
    ("oauth_state_target", .ofOption OAuthTarget.toJson s.oauthStateTarget),
    ("google_user_id", .ofOption .string s.googleUserId),
    ("google_hosted_domain", .ofOption .string s.googleHostedDomain),
    ("microsoft_user_id", .ofOption .string s.microsoftUserId),
    ("github_user_id", .ofOption .string s.githubUserId),
    ("verified_saml_connection_id", .ofOption .ofUuid s.verifiedSamlConnectionId),
    ("verified_oidc_connection_id", .ofOption .ofUuid s.verifiedOidcConnectionId),
    ("display_name", .ofOption .string s.displayName),
    ("profile_picture_url", .ofOption .string s.profilePictureUrl),
    ("password_reset_code_sha256", .ofOption .ofBytes s.resetCodeSha256),
    ("password_reset_code_verified", .bool s.resetCodeVerified),
    ("create_time", .ofInstant s.createTime),
    ("expire_time", .ofInstant s.expireTime),
    ("exchange_time", .ofOption .ofInstant s.exchangeTime)]

/-- The fields that are read but never written. -/
def hiddenMembers (s : IntermediateSession) : List (String × Json) :=
  [("new_user_password_bcrypt", .ofOption .string s.stagedPasswordHash)]

def toJson (s : IntermediateSession) : Json := .object s.members

def ofJson? (j : Json) : Option IntermediateSession := do
  let r ← Row.ofJson? fields j
  return {
    id := ← r.required "id" Json.uuid?
    projectId := ← r.required "project_id" Json.uuid?
    organizationId := ← r.optional "organization_id" Json.uuid?
    email := ← r.optional "email" Json.string?
    emailChallengeCompleted := ← r.flag "email_verification_challenge_completed"
    emailChallengeSha256 := ← r.optional "email_verification_challenge_sha256" Json.bytes?
    passwordVerified := ← r.flag "password_verified"
    passkeyVerified := ← r.flag "passkey_verified"
    authenticatorAppVerified := ← r.flag "authenticator_app_verified"
    primaryAuthFactor := ← r.optional "primary_auth_factor" PrimaryAuthFactor.ofJson?
    oauthStateSha256 := ← r.optional "oauth_state_sha256" Json.bytes?
    oauthStateTarget := ← r.optional "oauth_state_target" OAuthTarget.ofJson?
    googleUserId := ← r.optional "google_user_id" Json.string?
    googleHostedDomain := ← r.optional "google_hosted_domain" Json.string?
    microsoftUserId := ← r.optional "microsoft_user_id" Json.string?
    githubUserId := ← r.optional "github_user_id" Json.string?
    verifiedSamlConnectionId := ← r.optional "verified_saml_connection_id" Json.uuid?
    verifiedOidcConnectionId := ← r.optional "verified_oidc_connection_id" Json.uuid?
    displayName := ← r.optional "display_name" Json.string?
    profilePictureUrl := ← r.optional "profile_picture_url" Json.string?
    resetCodeSha256 := ← r.optional "password_reset_code_sha256" Json.bytes?
    resetCodeVerified := ← r.flag "password_reset_code_verified"
    stagedPasswordHash := ← r.optional "new_user_password_bcrypt" Json.string?
    createTime := ← r.required "create_time" Json.instant?
    expireTime := ← r.required "expire_time" Json.instant?
    exchangeTime := ← r.optional "exchange_time" Json.instant? }

end IntermediateSession

end Vestibule
