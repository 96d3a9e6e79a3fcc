import Vestibule.Login.Factor

/-! Sessions: what a login ends in. Only the digest of the refresh token is kept. -/

namespace Vestibule

structure Session where
  id : Uuid
  userId : Uuid
  refreshTokenSha256 : List UInt8
  primaryAuthFactor : PrimaryAuthFactor
  impersonatorUserId : Option Uuid
  createTime : Instant
  expireTime : Instant
  lastActiveTime : Instant
  revoked : Bool
  deriving DecidableEq, Repr

namespace Session

def new (id : Uuid) (now : Instant) (userId : Uuid) (refreshTokenSha256 : List UInt8)
    (factor : PrimaryAuthFactor) (expire : Instant) : Session where
  id := id
  userId := userId
  refreshTokenSha256 := refreshTokenSha256
  primaryAuthFactor := factor
  impersonatorUserId := none
  createTime := now
  expireTime := expire
  lastActiveTime := now
  revoked := false

def isLive (s : Session) (now : Instant) : Bool := !s.revoked && now < s.expireTime

def fields : List String :=
  ["id", "user_id", "refresh_token_sha256", "primary_auth_factor", "impersonator_user_id",
    "create_time", "expire_time", "last_active_time", "revoked"]

def members (s : Session) : List (String × Json) :=
  [("id", .ofUuid s.id),
    ("user_id", .ofUuid s.userId),
    ("primary_auth_factor", s.primaryAuthFactor.toJson),
    ("impersonator_user_id", .ofOption .ofUuid s.impersonatorUserId),
    ("create_time", .ofInstant s.createTime),
    ("expire_time", .ofInstant s.expireTime),
    ("last_active_time", .ofInstant s.lastActiveTime),
    ("revoked", .bool s.revoked)]

/-- The fields that are read but never written. -/
def hiddenMembers (s : Session) : List (String × Json) :=
  [("refresh_token_sha256", .ofBytes s.refreshTokenSha256)]

def toJson (s : Session) : Json := .object s.members

def ofJson? (j : Json) : Option Session := do
  let r ← Row.ofJson? fields j
  return {
    id := ← r.required "id" Json.uuid?
    userId := ← r.required "user_id" Json.uuid?
    refreshTokenSha256 := ← r.required "refresh_token_sha256" Json.bytes?
    primaryAuthFactor := ← r.required "primary_auth_factor" PrimaryAuthFactor.ofJson?
    impersonatorUserId := ← r.optional "impersonator_user_id" Json.uuid?
    createTime := ← r.required "create_time" Json.instant?
    expireTime := ← r.required "expire_time" Json.instant?
    lastActiveTime := ← r.required "last_active_time" Json.instant?
    revoked := ← r.flag "revoked" }

end Session

end Vestibule
