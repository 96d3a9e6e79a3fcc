import Vestibule.Login.Factor
import Vestibule.Password.Bcrypt
import Vestibule.Provider.Error
import Vestibule.Store.Error
import Vestibule.Token.Secret

/-! Why a request fails: the caller's argument, the state it meets, or a service behind it. -/

namespace Vestibule

inductive ErrorKind where
  | invalidArgument
  | failedPrecondition
  | permissionDenied
  | notFound
  | unauthenticated
  | deadlineExceeded
  | internal
  deriving DecidableEq, Repr

inductive InvalidArgument where
  | malformedEmail
  | malformedToken (kind : SecretTokenKind)
  | wrongEmailCode
  | wrongResetCode
  | wrongOAuthState
  | passwordTooShort (least : Nat)
  | passwordTooLong (most : Nat)
  | emailMismatch
  | organizationMismatch
  | connectionMismatch (kind : EntityKind)
  | redirectUrlMissing
  | codeRefused
  | assertionRejected (reason : String)
  | other (text : String)
  deriving DecidableEq, Repr

def InvalidArgument.message : InvalidArgument → String
  | malformedEmail => "malformed email address"
  | malformedToken kind => "malformed " ++ kind.description
  | wrongEmailCode => "invalid email verification code"
  | wrongResetCode => "invalid password reset code"
  | wrongOAuthState => "invalid oauth state"
  | passwordTooShort least => "password must be at least " ++ toString least ++ " characters"
  | passwordTooLong most => "password must be at most " ++ toString most ++ " bytes"
  | emailMismatch => "email does not match intermediate session email"
  | organizationMismatch => "intermediate session is bound to a different organization"
  | connectionMismatch kind => kind.name ++ " belongs to a different organization"
  | redirectUrlMissing => "redirect_url is required for this oauth client"
  | codeRefused => "failed to redeem oauth code"
  | assertionRejected reason => "saml assertion rejected: " ++ reason
  | other text => text

/-- Whose policy refuses a step. -/
inductive Tenant where
  | project
  | organization
  deriving DecidableEq, Repr

def Tenant.name : Tenant → String
  | project => "project"
  | organization => "organization"

inductive Precondition where
  | alreadyExchanged
  | loginsDisabled (tenant : Tenant)
  | methodDisabled (method : LoginMethod) (tenant : Tenant)
  | noMethodEnabled
  | noOrganization
  | organizationBound
  | noEmail
  | emailUnverified
  | emailAlreadyVerified
  | emailQuotaExceeded
  | noEmailChallenge
  | noResetCode
  | noPassword
  | passwordAlreadyVerified
  | passwordConfigured
  | lockedOut
  | noPrimaryFactor
  | primaryFactorUnverified
  | secondFactorMissing
  | accountConflict (provider : OAuthProvider)
  | oauthStateUsed
  | alreadyExists (entity : EntityKind)
  | other (text : String)
  deriving DecidableEq, Repr

def Precondition.message : Precondition → String
  | alreadyExchanged => "intermediate session has already been exchanged"
  | loginsDisabled tenant => "logins are disabled for this " ++ tenant.name
  | methodDisabled method tenant =>
    method.name ++ " login is not enabled for this " ++ tenant.name
  | noMethodEnabled => "no login method is enabled"
  | noOrganization => "intermediate session is not bound to an organization"
  | organizationBound => "intermediate session is already bound to an organization"
  | noEmail => "intermediate session has no email"
  | emailUnverified => "email has not been verified"
  | emailAlreadyVerified => "email has already been verified"
  | emailQuotaExceeded => "email daily quota exceeded"
  | noEmailChallenge => "no email verification challenge has been issued"
  | noResetCode => "no password reset code has been issued"
  | noPassword => "user does not have a password configured"
  | passwordAlreadyVerified => "password has already been verified"
  | passwordConfigured =>
    "a password is already configured; verify a password reset code to replace it"
  | lockedOut => "too many password attempts; user is temporarily locked out"
  | noPrimaryFactor => "no primary auth factor has been verified"
  | primaryFactorUnverified => "primary auth factor has not been verified"
  | secondFactorMissing => "organization requires a second factor"
  | accountConflict provider =>
    "user is already linked to a different " ++ provider.name ++ " account"
  | oauthStateUsed => "oauth state already used"
  | alreadyExists entity => entity.name ++ " already exists"
  | other text => text

inductive Unauthenticated where
  | sessionExpired
  | refreshToken
  | tokenExpired
  | tokenSignature
  | tokenIssuer
  | tokenAudience
  | tokenMalformed
  | other (text : String)
  deriving DecidableEq, Repr

def Unauthenticated.message : Unauthenticated → String
  | sessionExpired => "intermediate session has expired"
  | refreshToken => "invalid refresh token"
  | tokenExpired => "access token expired"
  | tokenSignature => "invalid access token signature"
  | tokenIssuer => "invalid access token issuer"
  | tokenAudience => "invalid access token audience"
  | tokenMalformed => "malformed access token"
  | other text => text

/-- What an outside service was asked for when it failed. -/
inductive ProviderCall where
  | sendVerificationEmail
  | sendResetEmail
  | checkBreach
  | discover
  | decrypt
  | redeem
  | authorizeUrl
  | other (context : String)
  deriving DecidableEq, Repr

def ProviderCall.context : ProviderCall → String
  | sendVerificationEmail => "send verification email"
  | sendResetEmail => "send password reset email"
  | checkBreach => "check breached password"
  | discover => "discover oidc configuration"
  | decrypt => "decrypt oauth client secret"
  | redeem => "redeem oauth code"
  | authorizeUrl => "build authorize url"
  | other context => context

inductive InternalCause where
  | store (error : StoreError)
  | auditWrite (error : StoreError)
  | provider (call : ProviderCall) (error : ProviderError)
  | hashPassword (failure : Bcrypt.Failure)
  | verifyHash (failure : Bcrypt.Failure)
  | encodeToken
  | noRedeemedOrganization
  | other (context : String) (source : Option String)
  deriving DecidableEq, Repr

def InternalCause.context : InternalCause → String
  | store _ => "store operation failed"
  | auditWrite _ => "write audit log event"
  | provider call _ => call.context
  | hashPassword _ => "hash password"
  | verifyHash _ => "verify password hash"
  | encodeToken => "encode access token"
  | noRedeemedOrganization => "oidc redemption without organization"
  | other context _ => context

/-- The text of the failure behind an internal one. -/
def InternalCause.source : InternalCause → Option String
  | store e | auditWrite e => some e.message
  | provider _ e => some e.message
  | hashPassword _ | verifyHash _ | encodeToken | noRedeemedOrganization => none
  | other _ source => source

inductive RequestError where
  | invalidArgument (reason : InvalidArgument)
  | failedPrecondition (reason : Precondition)
  | permissionDenied (text : String)
  | notFound (what : String)
  | unauthenticated (reason : Unauthenticated)
  | deadlineExceeded
  | internal (cause : InternalCause)
  | incorrectPassword
  | passwordCompromised
  | passwordsUnavailable
  /-- No answer at all: the work broke off at a time that the calendar does not have. -/
  | brokenOff
  deriving DecidableEq, Repr

namespace RequestError

def message : RequestError → String
  | invalidArgument r => "invalid argument: " ++ r.message
  | failedPrecondition r => "failed precondition: " ++ r.message
  | permissionDenied text => "permission denied: " ++ text
  | notFound what => "not found: " ++ what
  | unauthenticated r => "unauthenticated: " ++ r.message
  | deadlineExceeded => "deadline exceeded"
  | internal cause => "internal error: " ++ cause.context
  | incorrectPassword => "incorrect password"
  | passwordCompromised => "password is compromised"
  | passwordsUnavailable => "passwords are unavailable for this email"
  | brokenOff => "time out of range"

def kind : RequestError → ErrorKind
  | invalidArgument _ => .invalidArgument
  | failedPrecondition _ | incorrectPassword | passwordCompromised | passwordsUnavailable =>
    .failedPrecondition
  | permissionDenied _ => .permissionDenied
  | notFound _ => .notFound
  | unauthenticated _ => .unauthenticated
  | deadlineExceeded => .deadlineExceeded
  | internal _ | brokenOff => .internal

/-- The code that clients branch on. Refused passwords have codes of their own. -/
def code : RequestError → String
  | invalidArgument _ => "INVALID_ARGUMENT"
  | failedPrecondition _ => "FAILED_PRECONDITION"
  | permissionDenied _ => "PERMISSION_DENIED"
  | notFound _ => "NOT_FOUND"
  | unauthenticated _ => "UNAUTHENTICATED"
  | deadlineExceeded => "DEADLINE_EXCEEDED"
  | internal _ | brokenOff => "INTERNAL"
  | incorrectPassword => "INCORRECT_PASSWORD"
  | passwordCompromised => "PASSWORD_COMPROMISED"
  | passwordsUnavailable => "PASSWORDS_UNAVAILABLE_FOR_EMAIL"

/-- The failure of a name, with a text of its own where its kind has one. -/
def ofName? (name text : String) (source : Option String) : Option RequestError :=
  match name with
  | "InvalidArgument" => some (invalidArgument (.other text))
  | "FailedPrecondition" => some (failedPrecondition (.other text))
  | "PermissionDenied" => some (permissionDenied text)
  | "NotFound" => some (notFound text)
  | "Unauthenticated" => some (unauthenticated (.other text))
  | "DeadlineExceeded" => some deadlineExceeded
  | "Internal" => some (internal (.other text source))
  | "IncorrectPassword" => some incorrectPassword
  | "PasswordCompromised" => some passwordCompromised
  | "PasswordsUnavailableForEmail" => some passwordsUnavailable
  | _ => none

def isServerError (e : RequestError) : Bool := e.kind = .internal

def isTransient (e : RequestError) : Bool := e.kind = .deadlineExceeded

/-- The text of the failure behind this one. -/
def source : RequestError → Option String
  | internal cause => cause.source
  | _ => none

def ofStore : StoreError → RequestError
  | .conflict entity => failedPrecondition (.alreadyExists entity)
  | .notFound entity => notFound entity.name
  | e => internal (.store e)

/-- A service that answers too late exceeds the deadline; any other failure of it is internal. -/
def ofProvider (call : ProviderCall) (e : ProviderError) : RequestError :=
  if e.isTimeout then deadlineExceeded else internal (.provider call e)

end RequestError

/-- The HTTP status that a kind of failure is answered with. -/
def ErrorKind.status : ErrorKind → Nat
  | invalidArgument | failedPrecondition => 400
  | unauthenticated => 401
  | permissionDenied => 403
  | notFound => 404
  | deadlineExceeded => 504
  | internal => 500

def ErrorKind.name : ErrorKind → String
  | invalidArgument => "InvalidArgument"
  | failedPrecondition => "FailedPrecondition"
  | permissionDenied => "PermissionDenied"
  | notFound => "NotFound"
  | unauthenticated => "Unauthenticated"
  | deadlineExceeded => "DeadlineExceeded"
  | internal => "Internal"

/-- The digest of a secret that a caller gives as a token. A text that is no token of the kind is
the caller's fault. -/
def SecretTokenKind.parse (k : SecretTokenKind) (text : String) :
    Except RequestError (List UInt8) :=
  match k.digest? text with
  | some digest => .ok digest
  | none => .error (.invalidArgument (.malformedToken k))

end Vestibule
