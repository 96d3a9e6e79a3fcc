import Vestibule.Login.Factor

/-! Projects: the tenants of the platform, with their login policy and OAuth clients. -/

namespace Vestibule

/-- A tenant's own client at a provider. The secret is sealed by the key-management service. -/
structure OAuthClientCredentials where
  clientId : String
  secretCiphertext : List UInt8
  deriving DecidableEq, Repr

namespace OAuthClientCredentials

def toJson (c : OAuthClientCredentials) : Json :=
  .object [("client_id", .string c.clientId),
    ("client_secret_ciphertext", .ofBytes c.secretCiphertext)]

def ofJson? (j : Json) : Option OAuthClientCredentials := do
  let r ← Row.ofJson? ["client_id", "client_secret_ciphertext"] j
  return {
    clientId := ← r.required "client_id" Json.string?
    secretCiphertext := ← r.required "client_secret_ciphertext" Json.bytes? }

end OAuthClientCredentials

structure Project where
  id : Uuid
  displayName : String
  loginsDisabled : Bool
  loginMethods : LoginMethods
  googleClient : Option OAuthClientCredentials
  microsoftClient : Option OAuthClientCredentials
  githubClient : Option OAuthClientCredentials
  emailQuotaDaily : Option Int64
  emailSendFromDomain : String
  createTime : Instant
  updateTime : Instant
  deriving DecidableEq, Repr

namespace Project

/-- A project with every login method off and the platform's own clients and mail domain. -/
def new (id : Uuid) (now : Instant) (displayName : String) : Project where
  id := id
  displayName := displayName
  loginsDisabled := false
  loginMethods := .none
  googleClient := none
  microsoftClient := none
  githubClient := none
  emailQuotaDaily := none
  emailSendFromDomain := "mail.portcullis.dev"
  createTime := now
  updateTime := now

def oauthClient (p : Project) : OAuthProvider → Option OAuthClientCredentials
  | .google => p.googleClient
  | .microsoft => p.microsoftClient
  | .github => p.githubClient

def withOAuthClient (p : Project) (provider : OAuthProvider) (c : OAuthClientCredentials) :
    Project :=
  match provider with
  | .google => { p with googleClient := some c }
  | .microsoft => { p with microsoftClient := some c }
  | .github => { p with githubClient := some c }

/-- The emails a day that the project may send, its own number or the platform's. -/
def effectiveEmailQuota (p : Project) (default : Int64) : Int64 := p.emailQuotaDaily.getD default

def emailFromAddress (p : Project) : String := "noreply@" ++ p.emailSendFromDomain

def fields : List String :=
  ["id", "display_name", "logins_disabled", "login_methods", "google_oauth_client",
    "microsoft_oauth_client", "github_oauth_client", "email_quota_daily",
    "email_send_from_domain", "create_time", "update_time"]

def members (p : Project) : List (String × Json) :=
  [("id", .ofUuid p.id),
    ("display_name", .string p.displayName),
    ("logins_disabled", .bool p.loginsDisabled),
    ("login_methods", p.loginMethods.toJson),
    ("google_oauth_client", .ofOption OAuthClientCredentials.toJson p.googleClient),
    ("microsoft_oauth_client", .ofOption OAuthClientCredentials.toJson p.microsoftClient),
    ("github_oauth_client", .ofOption OAuthClientCredentials.toJson p.githubClient),
    ("email_quota_daily", .ofOption (fun n => .int n.toInt) p.emailQuotaDaily),
    ("email_send_from_domain", .string p.emailSendFromDomain),
    ("create_time", .ofInstant p.createTime),
    ("update_time", .ofInstant p.updateTime)]

def toJson (p : Project) : Json := .object p.members

def ofJson? (j : Json) : Option Project := do
  let r ← Row.ofJson? fields j
  return {
    id := ← r.required "id" Json.uuid?
    displayName := ← r.required "display_name" Json.string?
    loginsDisabled := ← r.flag "logins_disabled"
    loginMethods := ← r.defaulted "login_methods" .none LoginMethods.ofJson?
    googleClient := ← r.optional "google_oauth_client" OAuthClientCredentials.ofJson?
    microsoftClient := ← r.optional "microsoft_oauth_client" OAuthClientCredentials.ofJson?
    githubClient := ← r.optional "github_oauth_client" OAuthClientCredentials.ofJson?
    emailQuotaDaily := ← r.optional "email_quota_daily" Json.int64?
    emailSendFromDomain := ← r.required "email_send_from_domain" Json.string?
    createTime := ← r.required "create_time" Json.instant?
    updateTime := ← r.required "update_time" Json.instant? }

end Project

end Vestibule
