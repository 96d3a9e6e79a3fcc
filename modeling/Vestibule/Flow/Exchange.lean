import Vestibule.Flow.Service
import Vestibule.Identity.Linking

/-! Exchanging an intermediate session for a session, and a refresh token for an access token. -/

namespace Vestibule

structure IssuedSession where
  session : Session
  refreshToken : String
  deriving DecidableEq, Repr

/-- Creates a session for a user and audits it. -/
def issueSession (actor : Audit.Actor) (s : IntermediateSession) (u : User) (userCreated : Bool)
    (lifetime : Span) : Transaction IssuedSession := do
  let factor ← Transaction.need s.primaryAuthFactor (.failedPrecondition .noPrimaryFactor)
  let moment ← read
  let expire ← Transaction.reach lifetime
  let session := Session.new moment.sessionId moment.now u.id moment.secret.digest factor expire
  Transaction.write (·.createSession session)
  let change := Audit.SessionChange.created session.id u.id u.organizationId s.id factor userCreated
  recordEvent (change.toEvent moment.eventId moment.now s.projectId actor)
  return ⟨session, moment.secret.token .sessionRefreshToken⟩

/-- The result of an exchange. The refresh token is kept nowhere else. -/
structure ExchangedSession where
  session : Session
  user : User
  userCreated : Bool
  refreshToken : String
  accessToken : String
  deriving DecidableEq, Repr

/-- Links the redeemed accounts of a session to a user. A different account at one of the providers
is a conflict. -/
def linkAccounts (u : User) : List (OAuthProvider × String) → Except OAuthProvider User
  | [] => .ok u
  | (provider, subject) :: rest =>
    match u.providerSubject provider with
    | some linked => if linked = subject then linkAccounts u rest else .error provider
    | none => linkAccounts (u.setProviderSubject provider subject) rest

/-- The user with what the session learned: accounts, a staged password, and a name and picture
where the user has none. -/
def attachIdentity (now : Instant) (u : User) (s : IntermediateSession) :
    Except OAuthProvider User := do
  let u ← linkAccounts u s.providerSubjects
  let u := match s.stagedPasswordHash with
    | some hash =>
      { u with passwordHash := some hash, failedPasswordAttempts := 0, lockoutExpireTime := none }
    | none => u
  return { u with
    displayName := u.displayName.or s.displayName
    profilePictureUrl := u.profilePictureUrl.or s.profilePictureUrl
    updateTime := now }

def attachIdentityIn (u : User) (s : IntermediateSession) : Transaction User := do
  match attachIdentity (← Transaction.now) u s with
  | .ok u => return u
  | .error provider => Transaction.deny (.accountConflict provider)

/-- The user that the session stands for, created where there is none, and whether it was. -/
def resolveUser (organizationId : Uuid) (s : IntermediateSession) : Transaction (User × Bool) := do
  match ← Linking.forExchange organizationId s with
  | some user =>
    let user ← attachIdentityIn user s
    Transaction.write (·.updateUser user)
    return (user, false)
  | none =>
    let email ← Transaction.need s.email (.failedPrecondition .noEmail)
    let moment ← read
    let user ← attachIdentityIn (User.new moment.userId moment.now organizationId email) s
    Transaction.write (·.createUser user)
    return (user, true)

namespace Service

/-- Everything the exchange writes. -/
def exchangeBody (v : Service) (c : RequestContext) :
    Transaction (IssuedSession × User × Bool) := do
  let l ← Loaded.load c
  let organization ← l.requireOrganization
  let factor ← Transaction.need l.session.primaryAuthFactor
    (.failedPrecondition .noPrimaryFactor)
  l.requireMethod factor.loginMethod
  l.requireEmailVerified
  if !l.session.primaryFactorSatisfied then Transaction.deny .primaryFactorUnverified
  if organization.mfaEnforceable && !l.session.secondFactorSatisfied then
    Transaction.deny .secondFactorMissing
  let (user, created) ← resolveUser organization.id l.session
  let session := { l.session with exchangeTime := some (← Transaction.now) }
  Transaction.write (·.updateIntermediateSession session)
  let issued ← issueSession c.actor session user created v.config.sessionLifetime
  return (issued, user, created)

/-- The live session of a refresh token and its active user. -/
def refreshOwner (refreshToken : String) : Transaction (Session × User) := do
  let refused : RequestError := .unauthenticated .refreshToken
  let digest ← Transaction.need (SecretTokenKind.sessionRefreshToken.digest? refreshToken) refused
  let store ← get
  let now ← Transaction.now
  let session ← Transaction.need
    ((store.sessionByRefreshDigest? digest).filter (·.isLive now)) refused
  let user ← Transaction.need ((store.user? session.userId).filter User.isActive) refused
  return (session, user)

/-- The claims that a refresh token is exchanged for. -/
def refreshedClaims (t : TokenIssuer) (refreshToken : String) : Transaction AccessClaims := do
  let (session, user) ← refreshOwner refreshToken
  let moment ← read
  let expire ← Transaction.reach t.config.lifetime
  let claims := AccessClaims.new moment.claimsId moment.now session user t.config.issuer expire
  return { claims with audience := t.config.audience }

def accessTokenBody (t : TokenIssuer) (refreshToken : String) : Transaction String := do
  Transaction.ofExcept (t.encode (← refreshedClaims t refreshToken))

/-- An access token for a refresh token. Nothing is written. -/
def issueAccessToken (v : Service) (refreshToken : String) : ServiceOperation String :=
  .single (accessTokenBody v.issuer refreshToken)

/-- Exchanges the intermediate session for a session, once. The access token is made after the
exchange has been committed. -/
def exchange (v : Service) (c : RequestContext) : ServiceOperation ExchangedSession :=
  .transact (v.exchangeBody c) fun (issued, user, created) =>
    .transact (accessTokenBody v.issuer issued.refreshToken) fun accessToken =>
      .finish (.ok ⟨issued.session, user, created, issued.refreshToken, accessToken⟩)

end Service

end Vestibule
