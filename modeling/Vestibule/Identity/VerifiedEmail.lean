import Vestibule.Login.Factor

/-! Attestations that an email address belongs to whoever proved it: by a mailed code, or through
an account at a provider. -/

namespace Vestibule

structure VerifiedEmail where
  id : Uuid
  projectId : Uuid
  email : String
  provider : Option OAuthProvider
  providerSubject : Option String
  createTime : Instant
  deriving DecidableEq, Repr

namespace VerifiedEmail

def byChallenge (id : Uuid) (now : Instant) (projectId : Uuid) (email : String) :
    VerifiedEmail where
  id := id
  projectId := projectId
  email := email
  provider := none
  providerSubject := none
  createTime := now

def byProvider (id : Uuid) (now : Instant) (projectId : Uuid) (email : String)
    (provider : OAuthProvider) (subject : String) : VerifiedEmail where
  id := id
  projectId := projectId
  email := email
  provider := some provider
  providerSubject := some subject
  createTime := now

/-- Whether two attestations state the same. -/
def sameClaim (v w : VerifiedEmail) : Bool :=
  v.projectId == w.projectId && v.email == w.email && v.provider == w.provider &&
    v.providerSubject == w.providerSubject

def fields : List String :=
  ["id", "project_id", "email", "provider", "provider_subject", "create_time"]

def members (v : VerifiedEmail) : List (String × Json) :=
  [("id", .ofUuid v.id),
    ("project_id", .ofUuid v.projectId),
    ("email", .string v.email),
    ("provider", .ofOption OAuthProvider.toJson v.provider),
    ("provider_subject", .ofOption .string v.providerSubject),
    ("create_time", .ofInstant v.createTime)]

def toJson (v : VerifiedEmail) : Json := .object v.members

def ofJson? (j : Json) : Option VerifiedEmail := do
  let r ← Row.ofJson? fields j
  return {
    id := ← r.required "id" Json.uuid?
    projectId := ← r.required "project_id" Json.uuid?
    email := ← r.required "email" Json.string?
    provider := ← r.optional "provider" OAuthProvider.ofJson?
    providerSubject := ← r.optional "provider_subject" Json.string?
    createTime := ← r.required "create_time" Json.instant? }

end VerifiedEmail

end Vestibule
