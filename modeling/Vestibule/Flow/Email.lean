import Vestibule.Flow.Service

/-! Codes mailed to prove an email address, and the number of emails a project may send a day. -/

namespace Vestibule

/-- Counts one more email of the project today. Refuses one over the quota. -/
def chargeEmailQuota (p : Project) (defaultQuota : Int64) : Transaction Int64 := do
  let today := (← Transaction.now).date
  let counted := (← get).countEmail p.id today
  set counted
  let usage := counted.emailUsageOn p.id today
  if p.effectiveEmailQuota defaultQuota < usage then
    Transaction.deny .emailQuotaExceeded
  else return usage

namespace Service

/-- Both password registration and password reset need a verified email, so a challenge is open to
password logins as well. -/
def challengeMethods : List LoginMethod := [.email, .password]

def issueEmailChallengeBody (v : Service) (c : RequestContext) (email : String) :
    Transaction EmailMessage := do
  let l ← Loaded.load c
  l.requireAnyMethod challengeMethods
  let l ← l.bindEmail email
  if l.session.emailChallengeCompleted then Transaction.deny .emailAlreadyVerified
  let secret := (← read).secret
  let session := { l.session with emailChallengeSha256 := some secret.digest }
  let usage ← chargeEmailQuota l.project v.config.defaultEmailQuotaDaily
  persist c session (.emailVerificationChallengeIssued session.id email usage.toInt)
  return .verificationCode l.project.emailFromAddress email (secret.token .emailVerificationCode)

/-- Sends a code to an email address. The code is issued before it is sent and stays valid where
sending fails. -/
def issueEmailChallenge (v : Service) (c : RequestContext) (email : String) :
    ServiceOperation Unit :=
  if email.toList.contains '@' then
    .transact (v.issueEmailChallengeBody c email) fun message =>
      ServiceOperation.send message .sendVerificationEmail
  else .finish (.error (.invalidArgument .malformedEmail))

def verifyEmailChallengeBody (c : RequestContext) (code : String) :
    Transaction IntermediateSession := do
  let l ← Loaded.load c
  l.requireAnyMethod challengeMethods
  let stored ← Transaction.need l.session.emailChallengeSha256
    (.failedPrecondition .noEmailChallenge)
  let digest ← Transaction.need (SecretTokenKind.emailVerificationCode.digest? code)
    (.invalidArgument (.malformedToken .emailVerificationCode))
  if !digestMatches (some stored) digest then Transaction.refuse .wrongEmailCode
  let email ← l.requireEmail
  let session := { l.session with
    emailChallengeCompleted := true
    emailChallengeSha256 := none }
  let session := if l.allows .email then session.fixPrimaryAuthFactor .email else session
  let moment ← read
  modify (·.recordVerifiedEmail
    (.byChallenge moment.verifiedEmailId moment.now l.project.id email))
  persist c session (.emailVerified session.id email)
  return session

/-- Redeems a mailed code. Email becomes the primary factor only where email login is enabled. -/
def verifyEmailChallenge (c : RequestContext) (code : String) :
    ServiceOperation IntermediateSession :=
  .single (verifyEmailChallengeBody c code)

end Service

end Vestibule
