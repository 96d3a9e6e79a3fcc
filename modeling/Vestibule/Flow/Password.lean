import Vestibule.Flow.Service
import Vestibule.Identity.Linking

/-! Registering a password and checking one. -/

namespace Vestibule.Service

/-- Bytes of a password past these would not count. -/
def maxPasswordBytes : Nat := 72

/-- What must hold before a password is staged. -/
def checkRegistration (l : Loaded) : Transaction Organization := do
  let organization ← l.requireOrganization
  l.requireMethod .password
  l.requireEmailVerified
  if l.session.passwordVerified then Transaction.deny .passwordAlreadyVerified
  let _ ← Linking.forRegistration organization.id l.session
  return organization

def registerPasswordRead (c : RequestContext) : Transaction Unit := do
  let _ ← checkRegistration (← Loaded.load c)
  return

/-- The hash of a password that is not known to be breached. Hashing takes a while, so the deadline
is looked at again before its result is used. -/
def registerPasswordFetch (v : Service) (salt : List UInt8) (password : String) :
    ServiceFetch String := do
  if ← ServiceFetch.checkBreach password then Fetch.fail .passwordCompromised
  else Fetch.pause (.done (v.matcher.hash salt password))

def registerPasswordWrite (c : RequestContext) (hash : String) :
    Transaction IntermediateSession := do
  let l ← Loaded.load c
  let organization ← checkRegistration l
  let session := { l.session with stagedPasswordHash := some hash, resetCodeVerified := false }
  persist c session (.passwordRegistered session.id organization.id)
  return session

/-- Stages a password, which the exchange attaches to the user. A verified reset code is used up. -/
def registerPassword (v : Service) (c : RequestContext) (salt : List UInt8) (password : String) :
    ServiceOperation IntermediateSession :=
  let length := (Utf8.encode password).length
  if length < v.config.minPasswordLength then
    .finish (.error (.invalidArgument (.passwordTooShort v.config.minPasswordLength)))
  else if maxPasswordBytes < length then
    .finish (.error (.invalidArgument (.passwordTooLong maxPasswordBytes)))
  else
    .twoPhase (registerPasswordRead c) (fun _ => v.registerPasswordFetch salt password)
      (fun _ hash => registerPasswordWrite c hash)

/-- Checks the user's password and hashes it anew at the current cost. A mismatch is answered
inside, so that what it wrote is kept. -/
def matchAndRehash (v : Service) (c : RequestContext) (user : User) (password : String) :
    Transaction (Except RequestError User) := do
  let (user, outcome) ← v.matcher.matchPassword c.projectId c.actor user password
  match outcome with
  | .rejected reason => return .error reason
  | .matched =>
    let moment ← read
    let hash ← Transaction.ofExcept (v.matcher.hash moment.salt password)
    let user := { user with passwordHash := some hash, updateTime := moment.now }
    Transaction.write (·.updateUser user)
    return .ok user

/-- The session and the change to audit, once its staged password or its user's has matched. -/
def verifyChallenge (v : Service) (c : RequestContext) (l : Loaded) (password : String) :
    Transaction (Except RequestError (IntermediateSession × Audit.IntermediateSessionChange)) := do
  let organization ← l.requireOrganization
  l.requireMethod .password
  l.requireEmailVerified
  if l.session.passwordVerified then Transaction.deny .passwordAlreadyVerified
  let done := (l.session, .passwordVerified l.session.id organization.id)
  match l.session.stagedPasswordHash with
  | some staged =>
    if ← Transaction.ofExcept (v.matcher.verifyHash password staged) then return .ok done
    else Transaction.fail .incorrectPassword
  | none =>
    let email ← l.requireEmail
    let user ← Transaction.need (← Linking.byEmail organization.id email)
      (.failedPrecondition .noPassword)
    return (← v.matchAndRehash c user password).map fun _ => done

/-- The session bound to the one user of the project with this email and password. -/
def verifyDirect (v : Service) (c : RequestContext) (l : Loaded) (email password : String) :
    Transaction (Except RequestError (IntermediateSession × Audit.IntermediateSessionChange)) := do
  if l.session.organizationId.isSome then Transaction.deny .organizationBound
  l.requireMethod .password
  if l.session.email.any (· ≠ email) then Transaction.refuse .emailMismatch
  let user ← Linking.uniqueForPassword l.project.id email
  return (← v.matchAndRehash c user password).map fun user =>
    let session := { l.session with
      organizationId := some user.organizationId
      email := some user.email
      emailChallengeCompleted := true }
    (session, .passwordLogin session.id user.organizationId user.id)

def verifyPasswordBody (v : Service) (c : RequestContext) (email : Option String)
    (password : String) : Transaction (Except RequestError IntermediateSession) := do
  let l ← Loaded.load c
  let checked ← match email with
    | none => v.verifyChallenge c l password
    | some email => v.verifyDirect c l email password
  match checked with
  | .error reason => return .error reason
  | .ok (session, change) =>
    let session := { session with passwordVerified := true }.fixPrimaryAuthFactor .password
    persist c session change
    return .ok session

/-- Checks a password: on a session that is bound to an organization, or with an email as a login
that finds its user. The count of a mismatch is committed although the request fails. -/
def verifyPassword (v : Service) (c : RequestContext) (email : Option String) (password : String) :
    ServiceOperation IntermediateSession :=
  .transact (v.verifyPasswordBody c email password) .finish

end Vestibule.Service
