import Vestibule.Audit.Event
import Vestibule.Identity.User
import Vestibule.Identity.VerifiedEmail
import Vestibule.Session.Intermediate
import Vestibule.Session.Session
import Vestibule.Store.Error
import Vestibule.Store.Table
import Vestibule.Tenant.Connection
import Vestibule.Tenant.Organization
import Vestibule.Tenant.Project

/-! The store: all tables, and what can be asked of them and written to them. -/

namespace Vestibule

/-- The emails that a project has sent on a day, counted in 64 bits. -/
structure EmailUsage where
  projectId : Uuid
  date : Date
  count : Int64
  deriving DecidableEq, Repr

structure Store where
  projects : Table Project Project.id := {}
  organizations : Table Organization Organization.id := {}
  users : Table User User.id := {}
  verifiedEmails : List VerifiedEmail := []
  intermediateSessions : Table IntermediateSession IntermediateSession.id := {}
  sessions : Table Session Session.id := {}
  samlConnections : Table SamlConnection SamlConnection.id := {}
  oidcConnections : Table OidcConnection OidcConnection.id := {}
  emailUsage : List EmailUsage := []
  auditLog : List Audit.Event := []
  deriving Inhabited

namespace Store

def project? (s : Store) (id : Uuid) : Option Project := s.projects.get? id

/-- Organizations are only seen from their own project. -/
def organization? (s : Store) (projectId id : Uuid) : Option Organization :=
  (s.organizations.get? id).filter (·.projectId == projectId)

def samlConnection? (s : Store) (projectId id : Uuid) : Option SamlConnection :=
  (s.samlConnections.get? id).filter fun c => (s.organization? projectId c.organizationId).isSome

def oidcConnection? (s : Store) (projectId id : Uuid) : Option OidcConnection :=
  (s.oidcConnections.get? id).filter fun c => (s.organization? projectId c.organizationId).isSome

def intermediateSession? (s : Store) (projectId id : Uuid) : Option IntermediateSession :=
  (s.intermediateSessions.get? id).filter (·.projectId == projectId)

def updateIntermediateSession (s : Store) (r : IntermediateSession) : Except StoreError Store :=
  if s.intermediateSessions.contains r.id then
    .ok { s with intermediateSessions := s.intermediateSessions.replace r }
  else .error (.notFound .intermediateSession)

def user? (s : Store) (id : Uuid) : Option User := s.users.get? id

/-- The active user of an organization with an email. -/
def userByEmail? (s : Store) (organizationId : Uuid) (email : String) : Option User :=
  s.users.rows.find? fun u => u.organizationId == organizationId && u.email == email && u.isActive

/-- The active user of an organization with an account at a provider. -/
def userBySubject? (s : Store) (organizationId : Uuid) (provider : OAuthProvider)
    (subject : String) : Option User :=
  s.users.rows.find? fun u =>
    u.organizationId == organizationId && u.isActive && u.providerSubject provider == some subject

/-- Whether an organization of the project lets its users log in with a password. -/
def allowsPasswordLogin (s : Store) (projectId organizationId : Uuid) : Bool :=
  (s.organization? projectId organizationId).any fun o =>
    !o.loginsDisabled && o.loginMethods.password

/-- The users of a project who may log in with this email and a password, by identifier. -/
def passwordLoginCandidates (s : Store) (projectId : Uuid) (email : String) : List User :=
  (s.users.rows.filter fun u =>
    u.email == email && u.isActive && u.passwordHash.isSome &&
      s.allowsPasswordLogin projectId u.organizationId).mergeSort fun u v => u.id ≤ v.id

/-- An organization has at most one user with an email, deactivated ones counted. -/
def createUser (s : Store) (u : User) : Except StoreError Store :=
  if s.users.rows.any (fun v => v.organizationId == u.organizationId && v.email == u.email) ||
      s.users.contains u.id then
    .error (.conflict .user)
  else .ok { s with users := s.users.add u }

def updateUser (s : Store) (u : User) : Except StoreError Store :=
  if s.users.contains u.id then .ok { s with users := s.users.replace u }
  else .error (.notFound .user)

/-- Adds an attestation unless the same was made before. -/
def recordVerifiedEmail (s : Store) (v : VerifiedEmail) : Store :=
  if s.verifiedEmails.any (·.sameClaim v) then s
  else { s with verifiedEmails := s.verifiedEmails ++ [v] }

def isEmailVerifiedByProvider (s : Store) (projectId : Uuid) (email : String)
    (provider : OAuthProvider) (subject : String) : Bool :=
  s.verifiedEmails.any fun v =>
    v.projectId == projectId && v.email == email && v.provider == some provider &&
      v.providerSubject == some subject

def emailUsageOn (s : Store) (projectId : Uuid) (date : Date) : Int64 :=
  ((s.emailUsage.find? fun u => u.projectId == projectId && u.date == date).map (·.count)).getD 0

/-- Counts one more email. The count after the largest is the smallest. -/
def countEmail (s : Store) (projectId : Uuid) (date : Date) : Store :=
  let isOn := fun (u : EmailUsage) => u.projectId == projectId && u.date == date
  if s.emailUsage.any isOn then
    { s with emailUsage := s.emailUsage.map fun u =>
        if isOn u then { u with count := u.count + 1 } else u }
  else { s with emailUsage := s.emailUsage ++ [⟨projectId, date, 1⟩] }

def createSession (s : Store) (r : Session) : Except StoreError Store :=
  if s.sessions.contains r.id then .error (.conflict .session)
  else .ok { s with sessions := s.sessions.add r }

def sessionByRefreshDigest? (s : Store) (digest : List UInt8) : Option Session :=
  s.sessions.rows.find? fun r => r.refreshTokenSha256 == digest

/-- Appends to the audit log, where it can be written. -/
def appendEvent (s : Store) (writable : Bool) (e : Audit.Event) : Except StoreError Store :=
  if writable then .ok { s with auditLog := s.auditLog ++ [e] }
  else .error .auditWriteRefused

end Store

end Vestibule
