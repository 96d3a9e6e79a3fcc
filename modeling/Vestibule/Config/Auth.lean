import Vestibule.Config.Environment
import Vestibule.Config.Error
import Vestibule.Encoding.Utf8
import Vestibule.Time.Instant

/-! Limits and lifetimes of logins. -/

namespace Vestibule

structure AuthConfig where
  lockoutAttempts : Int32 := 5
  lockoutSeconds : Int64 := 600
  bcryptCost : Nat := 12
  minPasswordLength : Nat := 8
  sessionSeconds : Int64 := 604800
  defaultEmailQuotaDaily : Int64 := 1000
  accessTokenSecret : String := ""
  accessTokenIssuer : String := "portcullis"
  accessTokenSeconds : Int64 := 300
  deriving DecidableEq, Repr

namespace AuthConfig

def lockoutDuration (c : AuthConfig) : Span := .ofSeconds c.lockoutSeconds.toInt

def sessionLifetime (c : AuthConfig) : Span := .ofSeconds c.sessionSeconds.toInt

def accessTokenLifetime (c : AuthConfig) : Span := .ofSeconds c.accessTokenSeconds.toInt

def ofEnvironment (env : Environment) : AuthConfig :=
  let d : AuthConfig := {}
  let int64 := fun key (default : Int64) => Int64.ofInt (env.intOr 64 key default.toInt)
  { lockoutAttempts :=
      Int32.ofInt (env.intOr 32 "PORTCULLIS_PASSWORD_LOCKOUT_ATTEMPTS" d.lockoutAttempts.toInt)
    lockoutSeconds := int64 "PORTCULLIS_PASSWORD_LOCKOUT_SECS" d.lockoutSeconds
    bcryptCost := env.natOr 32 "PORTCULLIS_BCRYPT_COST" d.bcryptCost
    minPasswordLength := env.natOr 64 "PORTCULLIS_MIN_PASSWORD_LENGTH" d.minPasswordLength
    sessionSeconds := int64 "PORTCULLIS_SESSION_TTL_SECS" d.sessionSeconds
    defaultEmailQuotaDaily :=
      int64 "PORTCULLIS_DEFAULT_EMAIL_QUOTA_DAILY" d.defaultEmailQuotaDaily
    accessTokenSecret := env.textOr "PORTCULLIS_ACCESS_TOKEN_SECRET" d.accessTokenSecret
    accessTokenIssuer := env.textOr "PORTCULLIS_ACCESS_TOKEN_ISSUER" d.accessTokenIssuer
    accessTokenSeconds := int64 "PORTCULLIS_ACCESS_TOKEN_TTL_SECS" d.accessTokenSeconds }

/-- Refuses settings that are too weak to serve with. -/
def checkForProduction (c : AuthConfig) : Except ConfigError Unit :=
  if (Utf8.encode c.accessTokenSecret).length < 32 then
    .error (.invalid "PORTCULLIS_ACCESS_TOKEN_SECRET" "must be at least 32 bytes")
  else if c.bcryptCost < 10 then
    .error (.invalid "PORTCULLIS_BCRYPT_COST" "must be at least 10")
  else if c.lockoutAttempts < 1 then
    .error (.invalid "PORTCULLIS_PASSWORD_LOCKOUT_ATTEMPTS" "must be positive")
  else .ok ()

end AuthConfig

end Vestibule
