import Vestibule.Json.Settings
import Vestibule.Password.Matcher
import Vestibule.Provider.Config
import Vestibule.Provider.Retry
import Vestibule.Token.Key

/-! Configurations as JSON. Settings that are left out stay as they are. -/

namespace Vestibule

namespace AuthConfig

/-- The settings, and the durations among them in milliseconds. -/
def toJson (c : AuthConfig) : Json :=
  .object [("password_lockout_attempts", .int c.lockoutAttempts.toInt),
    ("password_lockout_duration_secs", .int c.lockoutSeconds.toInt),
    ("bcrypt_cost", .int c.bcryptCost),
    ("min_password_length", .int c.minPasswordLength),
    ("session_ttl_secs", .int c.sessionSeconds.toInt),
    ("default_email_quota_daily", .int c.defaultEmailQuotaDaily.toInt),
    ("access_token_secret", .string c.accessTokenSecret),
    ("access_token_issuer", .string c.accessTokenIssuer),
    ("access_token_ttl_secs", .int c.accessTokenSeconds.toInt),
    ("lockout_ms", .int c.lockoutDuration.millis),
    ("session_ms", .int c.sessionLifetime.millis),
    ("access_token_ms", .int c.accessTokenLifetime.millis)]

def withSettings (c : AuthConfig) (j : Json) : AuthConfig :=
  let int64 := fun name (n : Int64) => Int64.ofInt (j.intOr name n.toInt)
  { lockoutAttempts := Int32.ofInt (j.intOr "password_lockout_attempts" c.lockoutAttempts.toInt)
    lockoutSeconds := int64 "password_lockout_duration_secs" c.lockoutSeconds
    bcryptCost := j.natOr "bcrypt_cost" c.bcryptCost
    minPasswordLength := j.natOr "min_password_length" c.minPasswordLength
    sessionSeconds := int64 "session_ttl_secs" c.sessionSeconds
    defaultEmailQuotaDaily := int64 "default_email_quota_daily" c.defaultEmailQuotaDaily
    accessTokenSecret := j.textOr "access_token_secret" c.accessTokenSecret
    accessTokenIssuer := j.textOr "access_token_issuer" c.accessTokenIssuer
    accessTokenSeconds := int64 "access_token_ttl_secs" c.accessTokenSeconds }

end AuthConfig

/-- The settings of a matcher are left out together, or none of them is. -/
def CredentialMatcher.withSettings (m : CredentialMatcher) (j : Json) :
    Except String CredentialMatcher :=
  match j with
  | .null => .ok m
  | j => do
    let int := fun name => (j.int? name).elim (.error (name ++ " must be an integer")) .ok
    let attempts ← int "attempts"
    let seconds ← int "lockout_secs"
    let cost ← int "cost"
    return .new m.scheme (Int32.ofInt attempts) (.ofSeconds seconds) cost.toNat

def JwtConfig.withSettings (c : JwtConfig) (j : Json) : JwtConfig where
  secret := j.textOrNull "secret" c.secret
  privateKey := j.textOrNull "private_key" c.privateKey
  publicKey := j.textOrNull "public_key" c.publicKey
  algorithm := ((j.text? "algorithm").bind JwtAlgorithm.ofName?).getD c.algorithm
  issuer := j.textOr "issuer" c.issuer
  audience := (j.texts? "audience").getD c.audience
  lifetime := ((j.int? "duration_secs").map Span.ofSeconds).getD c.lifetime

def RetryPolicy.withSettings (p : RetryPolicy) (j : Json) : RetryPolicy where
  maxAttempts := j.natOr "max_attempts" p.maxAttempts
  initialDelay := ((j.int? "initial_ms").map Span.ofMillis).getD p.initialDelay
  maxDelay := ((j.int? "max_ms").map Span.ofMillis).getD p.maxDelay
  base := (j.float? "base").getD p.base

/-- A base URL comes before an authorization URL of its own. -/
def ProviderEndpoints.withSettings (e : ProviderEndpoints) (j : Json) : ProviderEndpoints :=
  let e := ((j.text? "base_url").map rootedAt).getD e
  { e with
    authorizeUrl := j.textOr "authorize_url" e.authorizeUrl
    tokenUrl := j.textOr "token_url" e.tokenUrl
    userinfoUrl := j.textOr "userinfo_url" e.userinfoUrl
    emailsUrl := j.textOrNull "emails_url" e.emailsUrl }

namespace KeyVaultConfig

def toJson (c : KeyVaultConfig) : Json :=
  .object [("base_url", .string c.baseUrl), ("token", .string c.token), ("mount", .string c.mount),
    ("key", .string c.clientSecretKey)]

def withSettings (c : KeyVaultConfig) (j : Json) : KeyVaultConfig where
  baseUrl := j.textOr "base_url" c.baseUrl
  token := j.textOr "token" c.token
  mount := j.textOr "mount" c.mount
  clientSecretKey := j.textOr "key" c.clientSecretKey

end KeyVaultConfig

def BreachLookupConfig.toJson (c : BreachLookupConfig) : Json :=
  .object [("base_url", .string c.baseUrl), ("enabled", .bool c.enabled)]

namespace ProviderConfig

def toJson (c : ProviderConfig) : Json :=
  .object [
    ("providers", .object <| OAuthProvider.all.map fun p =>
      (p.name, .object [("app", .object (c.app p).members), ("spec", (c.spec p).toJson)])),
    ("kms", c.keyVault.toJson),
    ("hibp", c.breachLookup.toJson),
    ("timeout_ms", .int (c.requestTimeoutSeconds * 1000)),
    ("max_retries", .int c.maxRetries)]

def withSettings (c : ProviderConfig) (j : Json) : ProviderConfig :=
  { c with
    google := c.google.withSettings (j.get "google")
    microsoft := c.microsoft.withSettings (j.get "microsoft")
    github := c.github.withSettings (j.get "github")
    googleEndpoints := c.googleEndpoints.withSettings (j.get "google")
    microsoftEndpoints := c.microsoftEndpoints.withSettings (j.get "microsoft")
    githubEndpoints := c.githubEndpoints.withSettings (j.get "github")
    keyVault := c.keyVault.withSettings (j.get "kms") }

end ProviderConfig

end Vestibule
