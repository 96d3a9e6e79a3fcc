import Vestibule.Flow.Service

/-! Redeeming SAML assertions. -/

namespace Vestibule.Service

/-- The connection and its organization, both of which must be open to this session. -/
def resolveSaml (l : Loaded) (connectionId : Uuid) :
    Transaction (SamlConnection × Organization) := do
  l.requireMethod .saml
  let store ← get
  let connection ← Transaction.need (store.samlConnection? l.project.id connectionId)
    (.notFound EntityKind.samlConnection.name)
  let organization ← Transaction.need
    (store.organization? l.project.id connection.organizationId)
    (.notFound EntityKind.organization.name)
  Loaded.checkOrganization organization .saml
  if l.session.organizationId.any (· ≠ organization.id) then
    Transaction.refuse (.connectionMismatch .samlConnection)
  return (connection, organization)

def redeemSamlRead (c : RequestContext) (connectionId : Uuid) : Transaction SamlConnection := do
  let l ← Loaded.load c
  return (← resolveSaml l connectionId).1

def redeemSamlWrite (c : RequestContext) (connectionId : Uuid) (email : String) :
    Transaction IntermediateSession := do
  let l ← Loaded.load c
  let (connection, organization) ← resolveSaml l connectionId
  let l ← l.bindEmail email
  let l ← l.bindOrganization organization
  let session := { l.session with
    verifiedSamlConnectionId := some connection.id }.fixPrimaryAuthFactor .saml
  persist c session (.samlAssertionRedeemed session.id connection.id email)
  return session

/-- Accepts an assertion that was posted for a connection. -/
def redeemSaml (c : RequestContext) (connectionId : Uuid) (response : String) :
    ServiceOperation IntermediateSession :=
  .twoPhase (redeemSamlRead c connectionId)
    (fun connection => ServiceFetch.validateAssertion connection response)
    (fun _ email => redeemSamlWrite c connectionId email)

end Vestibule.Service
