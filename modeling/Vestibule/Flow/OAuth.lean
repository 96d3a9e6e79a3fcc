import Vestibule.Flow.Service

/-! OAuth and OIDC logins: sending the visitor to a provider, and redeeming the code that comes
back. -/

namespace Vestibule

/-- Where what is known of a provider comes from. -/
inductive SpecSource where
  | known (spec : ProviderSpec)
  | discover (configurationUrl : String)
  deriving DecidableEq, Repr

inductive ClientSecret where
  | platform (secret : String)
  | sealed (ciphertext : List UInt8)
  deriving DecidableEq, Repr

/-- The client that a login goes through. Clients of tenants are redirected to where the caller
says, and clients of connections belong to an organization. -/
structure ResolvedClient where
  spec : SpecSource
  clientId : String
  secret : ClientSecret
  redirectUri : String
  organization : Option Organization
  deriving DecidableEq, Repr

namespace Service

def tenantRedirect (redirectUrl : Option String) : Transaction String :=
  Transaction.need redirectUrl (.invalidArgument .redirectUrlMissing)

def resolveProvider (v : Service) (l : Loaded) (provider : OAuthProvider)
    (redirectUrl : Option String) : Transaction ResolvedClient := do
  l.requireMethod provider.loginMethod
  let spec := SpecSource.known (v.providers.spec provider)
  match l.project.oauthClient provider with
  | some tenant =>
    return ⟨spec, tenant.clientId, .sealed tenant.secretCiphertext,
      ← tenantRedirect redirectUrl, none⟩
  | none =>
    let app := v.providers.app provider
    return ⟨spec, app.clientId, .platform app.clientSecret, app.redirectUri, none⟩

def resolveConnection (l : Loaded) (connectionId : Uuid) (redirectUrl : Option String) :
    Transaction ResolvedClient := do
  l.requireMethod .oidc
  let store ← get
  let connection ← Transaction.need (store.oidcConnection? l.project.id connectionId)
    (.notFound EntityKind.oidcConnection.name)
  let organization ← Transaction.need
    (store.organization? l.project.id connection.organizationId)
    (.notFound EntityKind.organization.name)
  Loaded.checkOrganization organization .oidc
  if l.session.organizationId.any (· ≠ organization.id) then
    Transaction.refuse (.connectionMismatch .oidcConnection)
  return ⟨.discover connection.configurationUrl, connection.clientId,
    .sealed connection.secretCiphertext, ← tenantRedirect redirectUrl, some organization⟩

def resolveClient (v : Service) (l : Loaded) (target : OAuthTarget)
    (redirectUrl : Option String) : Transaction ResolvedClient :=
  match target with
  | .provider provider => v.resolveProvider l provider redirectUrl
  | .oidcConnection id => resolveConnection l id redirectUrl

def fetchSpec : SpecSource → ServiceFetch ProviderSpec
  | .known spec => pure spec
  | .discover url => ServiceFetch.discover url

def oauthRedirectRead (v : Service) (c : RequestContext) (target : OAuthTarget)
    (redirectUrl : Option String) : Transaction ResolvedClient := do
  let l ← Loaded.load c
  v.resolveClient l target redirectUrl

def oauthRedirectWrite (v : Service) (c : RequestContext) (target : OAuthTarget)
    (redirectUrl : Option String) (client : ResolvedClient) (spec : ProviderSpec) :
    Transaction String := do
  let l ← Loaded.load c
  let _ ← v.resolveClient l target redirectUrl
  let moment ← read
  let state := moment.secret
  let url ← Transaction.ofExcept <|
    (moment.authorizeUrl spec client.clientId client.redirectUri
      (state.token .oauthState)).mapError (.ofProvider .authorizeUrl)
  let session := { l.session with
    oauthStateSha256 := some state.digest
    oauthStateTarget := some target }
  persist c session (.oauthRedirectIssued session.id target)
  return url

/-- The URL that sends the visitor to the provider, with a fresh state. -/
def oauthRedirect (v : Service) (c : RequestContext) (target : OAuthTarget)
    (redirectUrl : Option String) : ServiceOperation String :=
  .twoPhase (v.oauthRedirectRead c target redirectUrl) (fun client => fetchSpec client.spec)
    (v.oauthRedirectWrite c target redirectUrl)

/-- The digest of a state that was issued for this target, and the client it was issued for. -/
def redeemOAuthRead (v : Service) (c : RequestContext) (target : OAuthTarget) (state : String)
    (redirectUrl : Option String) : Transaction (List UInt8 × ResolvedClient) := do
  let l ← Loaded.load c
  let digest ← Transaction.need (SecretTokenKind.oauthState.digest? state)
    (.invalidArgument .wrongOAuthState)
  if !digestMatches l.session.oauthStateSha256 digest ||
      l.session.oauthStateTarget != some target then
    Transaction.refuse .wrongOAuthState
  return (digest, ← v.resolveClient l target redirectUrl)

def redeemOAuthFetch (v : Service) (code : String) (client : ResolvedClient) :
    ServiceFetch RedeemedIdentity := do
  let secret ← match client.secret with
    | .platform secret => pure secret
    | .sealed ciphertext => ServiceFetch.decrypt v.providers.keyVault.clientSecretKey ciphertext
  let spec ← fetchSpec client.spec
  ServiceFetch.redeem spec ⟨client.clientId, secret, client.redirectUri⟩ code

/-- Keeps the account at a provider. Its email counts as verified where the provider says so. -/
def recordProviderIdentity (l : Loaded) (provider : OAuthProvider) (identity : RedeemedIdentity) :
    Transaction Loaded := do
  let session := l.session.setProviderSubject provider identity.subject
  let session := match provider with
    | .google => { session with googleHostedDomain := identity.hostedDomain }
    | _ => session
  if identity.emailVerified then
    let moment ← read
    modify (·.recordVerifiedEmail (.byProvider moment.verifiedEmailId moment.now l.project.id
      identity.email provider identity.subject))
  return { l with session := session }

def recordConnectionIdentity (l : Loaded) (connectionId : Uuid) (client : ResolvedClient) :
    Transaction Loaded := do
  let organization ← Transaction.need client.organization (.internal .noRedeemedOrganization)
  let l ← l.bindOrganization organization
  return { l with session := { l.session with verifiedOidcConnectionId := some connectionId } }

def redeemOAuthWrite (c : RequestContext) (target : OAuthTarget) (digest : List UInt8)
    (client : ResolvedClient) (identity : RedeemedIdentity) :
    Transaction IntermediateSession := do
  let l ← Loaded.load c
  if !digestMatches l.session.oauthStateSha256 digest then Transaction.deny .oauthStateUsed
  let l := { l with
    session := { l.session with oauthStateSha256 := none, oauthStateTarget := none } }
  let l ← l.bindEmail identity.email
  let l ← match target with
    | .provider provider => recordProviderIdentity l provider identity
    | .oidcConnection id => recordConnectionIdentity l id client
  let session := { l.session with
    displayName := identity.displayName.or l.session.displayName
    profilePictureUrl := identity.profilePictureUrl.or l.session.profilePictureUrl
    }.fixPrimaryAuthFactor target.primaryAuthFactor
  persist c session
    (.oauthCodeRedeemed session.id target identity.email identity.emailVerified)
  return session

/-- Redeems a code together with the state that it was requested with. The state counts once. -/
def redeemOAuth (v : Service) (c : RequestContext) (target : OAuthTarget) (code state : String)
    (redirectUrl : Option String) : ServiceOperation IntermediateSession :=
  .twoPhase (v.redeemOAuthRead c target state redirectUrl)
    (fun plan => v.redeemOAuthFetch code plan.2)
    (fun plan identity => redeemOAuthWrite c target plan.1 plan.2 identity)

end Service

end Vestibule
