import Vestibule.Digest.Sha256
import Vestibule.Encoding.Base64
import Vestibule.Id.Entity

/-! Secret tokens: a tag that names the kind, and 32 random bytes. Only the digest of the bytes is
ever stored. -/

namespace Vestibule

inductive SecretTokenKind where
  | oauthState
  | passwordResetCode
  | emailVerificationCode
  | sessionRefreshToken
  deriving DecidableEq, Repr

namespace SecretTokenKind

def all : List SecretTokenKind :=
  [oauthState, passwordResetCode, emailVerificationCode, sessionRefreshToken]

def name : SecretTokenKind → String
  | oauthState => "oauth_state"
  | passwordResetCode => "password_reset_code"
  | emailVerificationCode => "email_verification_challenge_code"
  | sessionRefreshToken => "session_refresh_token"

def ofName? (s : String) : Option SecretTokenKind := all.find? (·.name == s)

def tag (k : SecretTokenKind) : String := k.name ++ "_"

def description : SecretTokenKind → String
  | oauthState => "oauth state"
  | passwordResetCode => "password reset code"
  | emailVerificationCode => "email verification code"
  | sessionRefreshToken => "refresh token"

def secretBytes : Nat := 32

/-- The token of a secret. -/
def render (k : SecretTokenKind) (secret : List UInt8) : String :=
  String.ofList (k.tag.toList ++ Base64.encode .url secret)

/-- The digest of the secret that a token holds, when the text is a token of the kind. -/
def digest? (k : SecretTokenKind) (text : String) : Option (List UInt8) := do
  let body ← Text.after? k.tag.toList text.toList
  let secret ← Base64.decode? .url body
  if secret.length = secretBytes then some (Sha256.digest secret) else none

end SecretTokenKind

/-- Whether a digest is the stored one; where none is stored, no digest is. -/
def digestMatches (stored : Option (List UInt8)) (candidate : List UInt8) : Bool :=
  stored == some candidate

end Vestibule
