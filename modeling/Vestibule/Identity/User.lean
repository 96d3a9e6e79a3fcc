import Vestibule.Login.Factor

/-! Users: the people of an organization, with their password hash and provider accounts. -/

namespace Vestibule

structure User where
  id : Uuid
  organizationId : Uuid
  email : String
  passwordHash : Option String
  googleUserId : Option String
  microsoftUserId : Option String
  githubUserId : Option String
  failedPasswordAttempts : Int32
  lockoutExpireTime : Option Instant
  isOwner : Bool
  displayName : Option String
  profilePictureUrl : Option String
  deactivateTime : Option Instant
  createTime : Instant
  updateTime : Instant
  deriving DecidableEq, Repr

namespace User

def new (id : Uuid) (now : Instant) (organizationId : Uuid) (email : String) : User where
  id := id
  organizationId := organizationId
  email := email
  passwordHash := none
  googleUserId := none
  microsoftUserId := none
  githubUserId := none
  failedPasswordAttempts := 0
  lockoutExpireTime := none
  isOwner := false
  displayName := none
  profilePictureUrl := none
  deactivateTime := none
  createTime := now
  updateTime := now

def isActive (u : User) : Bool := u.deactivateTime.isNone

def isLockedOut (u : User) (now : Instant) : Bool :=
  match u.lockoutExpireTime with
  | some expire => now < expire
  | none => false

/-- The user's account at a provider. -/
def providerSubject (u : User) : OAuthProvider → Option String
  | .google => u.googleUserId
  | .microsoft => u.microsoftUserId
  | .github => u.githubUserId

def setProviderSubject (u : User) (p : OAuthProvider) (subject : String) : User :=
  match p with
  | .google => { u with googleUserId := some subject }
  | .microsoft => { u with microsoftUserId := some subject }
  | .github => { u with githubUserId := some subject }

def fields : List String :=
  ["id", "organization_id", "email", "password_bcrypt", "google_user_id", "microsoft_user_id",
    "github_user_id", "failed_password_attempts", "password_lockout_expire_time", "is_owner",
    "display_name", "profile_picture_url", "deactivate_time", "create_time", "update_time"]

def members (u : User) : List (String × Json) :=
  [("id", .ofUuid u.id),
    ("organization_id", .ofUuid u.organizationId),
    ("email", .string u.email),
    ("google_user_id", .ofOption .string u.googleUserId),
    ("microsoft_user_id", .ofOption .string u.microsoftUserId),
    ("github_user_id", .ofOption .string u.githubUserId),
    ("failed_password_attempts", .int u.failedPasswordAttempts.toInt),
    ("password_lockout_expire_time", .ofOption .ofInstant u.lockoutExpireTime),
    ("is_owner", .bool u.isOwner),
    ("display_name", .ofOption .string u.displayName),
    ("profile_picture_url", .ofOption .string u.profilePictureUrl),
    ("deactivate_time", .ofOption .ofInstant u.deactivateTime),
    ("create_time", .ofInstant u.createTime),
    ("update_time", .ofInstant u.updateTime)]

/-- The fields that are read but never written. -/
def hiddenMembers (u : User) : List (String × Json) :=
  [("password_bcrypt", .ofOption .string u.passwordHash)]

def toJson (u : User) : Json := .object u.members

def ofJson? (j : Json) : Option User := do
  let r ← Row.ofJson? fields j
  return {
    id := ← r.required "id" Json.uuid?
    organizationId := ← r.required "organization_id" Json.uuid?
    email := ← r.required "email" Json.string?
    passwordHash := ← r.optional "password_bcrypt" Json.string?
    googleUserId := ← r.optional "google_user_id" Json.string?
    microsoftUserId := ← r.optional "microsoft_user_id" Json.string?
    githubUserId := ← r.optional "github_user_id" Json.string?
    failedPasswordAttempts := ← r.defaulted "failed_password_attempts" 0 Json.int32?
    lockoutExpireTime := ← r.optional "password_lockout_expire_time" Json.instant?
    isOwner := ← r.flag "is_owner"
    displayName := ← r.optional "display_name" Json.string?
    profilePictureUrl := ← r.optional "profile_picture_url" Json.string?
    deactivateTime := ← r.optional "deactivate_time" Json.instant?
    createTime := ← r.required "create_time" Json.instant?
    updateTime := ← r.required "update_time" Json.instant? }

end User

end Vestibule
