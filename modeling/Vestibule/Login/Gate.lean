import Vestibule.Audit.Change
import Vestibule.Store.Transaction

/-! The gate before every step on an intermediate session: the session must be able to make
progress, and its tenants must allow the login method. -/

namespace Vestibule

/-- On whose behalf an operation runs. -/
structure RequestContext where
  projectId : Uuid
  intermediateSessionId : Uuid
  deriving DecidableEq, Repr

def RequestContext.actor (c : RequestContext) : Audit.Actor :=
  .intermediateSession c.intermediateSessionId

/-- An intermediate session with its tenants, as one transaction sees them. -/
structure Loaded where
  session : IntermediateSession
  project : Project
  organization : Option Organization
  deriving DecidableEq, Repr

namespace Loaded

/-- Reads the session and its tenants. Refuses a session that is exchanged or expired, and tenants
whose logins are disabled. -/
def load (c : RequestContext) : Transaction Loaded := do
  let store ← get
  let session ← Transaction.need
    (store.intermediateSession? c.projectId c.intermediateSessionId)
    (.notFound EntityKind.intermediateSession.name)
  if session.isExchanged then Transaction.deny .alreadyExchanged
  if session.isExpired (← Transaction.now) then
    Transaction.fail (.unauthenticated .sessionExpired)
  let project ← Transaction.need (store.project? c.projectId) (.notFound EntityKind.project.name)
  if project.loginsDisabled then Transaction.deny (.loginsDisabled .project)
  match session.organizationId with
  | none => return ⟨session, project, none⟩
  | some id =>
    let organization ← Transaction.need (store.organization? project.id id)
      (.notFound EntityKind.organization.name)
    if organization.loginsDisabled then Transaction.deny (.loginsDisabled .organization)
    return ⟨session, project, some organization⟩

/-- Why an organization refuses a method, if it does. -/
def organizationRefuses? (o : Organization) (method : LoginMethod) : Option Precondition :=
  if o.loginsDisabled then some (.loginsDisabled .organization)
  else if !o.loginMethods.allows method then some (.methodDisabled method .organization)
  else none

/-- Why the project or the bound organization refuses a method, if one does. -/
def refuses? (l : Loaded) (method : LoginMethod) : Option Precondition :=
  if !l.project.loginMethods.allows method then some (.methodDisabled method .project)
  else l.organization.bind (organizationRefuses? · method)

def allows (l : Loaded) (method : LoginMethod) : Bool := (l.refuses? method).isNone

def deny? (reason : Option Precondition) : Transaction Unit :=
  match reason with
  | some reason => Transaction.deny reason
  | none => return

def checkOrganization (o : Organization) (method : LoginMethod) : Transaction Unit :=
  deny? (organizationRefuses? o method)

def requireMethod (l : Loaded) (method : LoginMethod) : Transaction Unit :=
  deny? (l.refuses? method)

/-- One of the methods must be allowed; else the first one's refusal is the answer. -/
def requireAnyMethod (l : Loaded) (methods : List LoginMethod) : Transaction Unit :=
  if methods.any l.allows then return
  else Transaction.deny ((methods.findSome? l.refuses?).getD .noMethodEnabled)

def requireOrganization (l : Loaded) : Transaction Organization :=
  Transaction.need l.organization (.failedPrecondition .noOrganization)

def requireEmail (l : Loaded) : Transaction String :=
  Transaction.need l.session.email (.failedPrecondition .noEmail)

/-- Binds the session to an organization; it never moves to another one. -/
def bindOrganization (l : Loaded) (o : Organization) : Transaction Loaded :=
  if l.session.organizationId.any (· ≠ o.id) then Transaction.refuse .organizationMismatch
  else
    return { l with
      session := { l.session with organizationId := some o.id }
      organization := some o }

/-- Gives the session an email, which must be the one it has, if it has one. -/
def bindEmail (l : Loaded) (email : String) : Transaction Loaded :=
  match l.session.email with
  | some known => if known = email then return l else Transaction.refuse .emailMismatch
  | none => return { l with session := { l.session with email := some email } }

/-- Whether the email of a session counts as verified: outright by a mailed code, a SAML assertion
or an OIDC connection; through a redeemed account only where the provider vouched for this email. -/
def isEmailVerified (store : Store) (projectId : Uuid) (s : IntermediateSession) : Bool :=
  s.emailChallengeCompleted || s.verifiedSamlConnectionId.isSome ||
    s.verifiedOidcConnectionId.isSome ||
    s.email.any fun email => s.providerSubjects.any fun (provider, subject) =>
      store.isEmailVerifiedByProvider projectId email provider subject

def requireEmailVerified (l : Loaded) : Transaction Unit := do
  if isEmailVerified (← get) l.project.id l.session then return
  else Transaction.deny .emailUnverified

end Loaded

/-- Writes the session back and audits the change. -/
def persist (c : RequestContext) (s : IntermediateSession)
    (change : Audit.IntermediateSessionChange) : Transaction Unit := do
  let moment ← read
  Transaction.write (·.updateIntermediateSession s)
  recordEvent (change.toEvent moment.eventId moment.now c.projectId c.actor)

end Vestibule
