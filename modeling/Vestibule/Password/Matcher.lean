import Vestibule.Audit.Change
import Vestibule.Config.Auth
import Vestibule.Store.Transaction

/-! Password checks against a user's stored hash, with a lockout after repeated mismatches. -/

namespace Vestibule

/-- A way to hash passwords under a cost and a salt, and to check them against a stored hash. -/
structure PasswordScheme where
  hash : Nat → List UInt8 → String → Except Bcrypt.Failure String
  verify : String → String → Except Bcrypt.Failure Bool

def PasswordScheme.bcrypt : PasswordScheme := ⟨Bcrypt.hash, Bcrypt.verify⟩

structure CredentialMatcher where
  scheme : PasswordScheme
  lockoutAttempts : Int32
  lockoutDuration : Span
  cost : Nat

/-- How a password check ended that reached the stored hash. -/
inductive MatchOutcome where
  | matched
  | rejected (reason : RequestError)
  deriving DecidableEq, Repr

/-- What one more mismatch comes to: the user after it, what is audited, and how the check is
answered. -/
structure Mismatch where
  user : User
  change : Audit.UserChange
  reason : RequestError
  deriving DecidableEq, Repr

namespace CredentialMatcher

/-- At least one attempt is allowed. -/
def new (scheme : PasswordScheme) (lockoutAttempts : Int32) (lockoutDuration : Span) (cost : Nat) :
    CredentialMatcher :=
  ⟨scheme, if lockoutAttempts < 1 then 1 else lockoutAttempts, lockoutDuration, cost⟩

def ofConfig (scheme : PasswordScheme) (c : AuthConfig) : CredentialMatcher :=
  new scheme c.lockoutAttempts c.lockoutDuration c.bcryptCost

def hash (m : CredentialMatcher) (salt : List UInt8) (password : String) :
    Except RequestError String :=
  (m.scheme.hash m.cost salt password).mapError fun f => .internal (.hashPassword f)

def verifyHash (m : CredentialMatcher) (password hash : String) : Except RequestError Bool :=
  (m.scheme.verify password hash).mapError fun f => .internal (.verifyHash f)

/-- The mismatch of a user that is counted. The one that fills the allowance locks the user out and
starts the count again. Nothing comes of it where the calendar ends before the lockout would. -/
def miss? (m : CredentialMatcher) (now : Instant) (u : User) : Option Mismatch :=
  let failed := u.failedPasswordAttempts + 1
  if m.lockoutAttempts ≤ failed then
    (now.add? m.lockoutDuration).map fun expire =>
      ⟨{ u with failedPasswordAttempts := 0, lockoutExpireTime := some expire, updateTime := now },
        .passwordLockedOut u.id u.organizationId expire, .failedPrecondition .lockedOut⟩
  else
    some ⟨{ u with failedPasswordAttempts := failed, updateTime := now },
      .passwordAttemptFailed u.id u.organizationId, .incorrectPassword⟩

/-- Checks a password. A mismatch is written to the user and the audit log; a match is not written
yet. Fails without a comparison where there is no hash or while the user is locked out. -/
def matchPassword (m : CredentialMatcher) (projectId : Uuid) (actor : Audit.Actor) (u : User)
    (password : String) : Transaction (User × MatchOutcome) := do
  let moment ← read
  let hash ← Transaction.need u.passwordHash (.failedPrecondition .noPassword)
  if u.isLockedOut moment.now then
    Transaction.deny .lockedOut
  else if ← Transaction.ofExcept (m.verifyHash password hash) then
    return ({ u with failedPasswordAttempts := 0, lockoutExpireTime := none }, .matched)
  else
    let missed ← Transaction.need (m.miss? moment.now u) .brokenOff
    Transaction.write (·.updateUser missed.user)
    recordEvent (missed.change.toEvent moment.eventId moment.now projectId actor)
    return (missed.user, .rejected missed.reason)

end CredentialMatcher

end Vestibule
