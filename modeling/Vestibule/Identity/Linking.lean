import Vestibule.Store.Transaction

/-! Which user an intermediate session stands for. Deactivated users are never found. -/

namespace Vestibule.Linking

def byEmail (organizationId : Uuid) (email : String) : Transaction (Option User) := do
  return ((← get).userByEmail? organizationId email).filter User.isActive

/-- The user whose password a registration would set. An existing password, staged or stored, may
only be replaced after a reset code was verified. -/
def forRegistration (organizationId : Uuid) (s : IntermediateSession) :
    Transaction (Option User) := do
  let email ← Transaction.need s.email (.failedPrecondition .noEmail)
  let user ← byEmail organizationId email
  let hasPassword := s.stagedPasswordHash.isSome || user.any (·.passwordHash.isSome)
  if hasPassword && !s.resetCodeVerified then Transaction.deny .passwordConfigured
  else return user

/-- The one user of the project who may log in with this email and a password. None and several are
answered alike. -/
def uniqueForPassword (projectId : Uuid) (email : String) : Transaction User := do
  let candidates := ((← get).passwordLoginCandidates projectId email).filter fun u =>
    u.isActive && u.passwordHash.isSome
  match candidates with
  | [user] => return user
  | _ => Transaction.fail .passwordsUnavailable

/-- The user of the first redeemed account that is linked to one, else the user with the session's
email. -/
def forExchange (organizationId : Uuid) (s : IntermediateSession) : Transaction (Option User) := do
  let store ← get
  let linked := s.providerSubjects.findSome? fun (provider, subject) =>
    (store.userBySubject? organizationId provider subject).filter User.isActive
  match linked, s.email with
  | some user, _ => return some user
  | none, some email => byEmail organizationId email
  | none, none => return none

end Vestibule.Linking
