import Vestibule.Flow.Email

/-! Codes that license replacing a password. Each counts once. -/

namespace Vestibule.Service

def issueResetCodeBody (v : Service) (c : RequestContext) : Transaction EmailMessage := do
  let l ← Loaded.load c
  l.requireMethod .password
  l.requireEmailVerified
  let email ← l.requireEmail
  let secret := (← read).secret
  let session := { l.session with
    resetCodeSha256 := some secret.digest
    resetCodeVerified := false }
  let usage ← chargeEmailQuota l.project v.config.defaultEmailQuotaDaily
  persist c session (.passwordResetCodeIssued session.id usage.toInt)
  return .passwordResetCode l.project.emailFromAddress email (secret.token .passwordResetCode)

/-- Sends a reset code to the session's verified email. A license that was not used yet is void. -/
def issueResetCode (v : Service) (c : RequestContext) : ServiceOperation Unit :=
  .transact (v.issueResetCodeBody c) fun message =>
    ServiceOperation.send message .sendResetEmail

def verifyResetCodeBody (c : RequestContext) (code : String) :
    Transaction IntermediateSession := do
  let l ← Loaded.load c
  l.requireMethod .password
  let stored ← Transaction.need l.session.resetCodeSha256 (.failedPrecondition .noResetCode)
  let digest ← Transaction.need (SecretTokenKind.passwordResetCode.digest? code)
    (.invalidArgument (.malformedToken .passwordResetCode))
  if !digestMatches (some stored) digest then Transaction.refuse .wrongResetCode
  let session := { l.session with resetCodeSha256 := none, resetCodeVerified := true }
  persist c session (.passwordResetCodeVerified session.id)
  return session

/-- Redeems a reset code. -/
def verifyResetCode (c : RequestContext) (code : String) : ServiceOperation IntermediateSession :=
  .single (verifyResetCodeBody c code)

end Vestibule.Service
