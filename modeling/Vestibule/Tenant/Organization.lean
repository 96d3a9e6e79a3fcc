import Vestibule.Login.Method

/-! Organizations: the customers of a project, to which users belong. -/

namespace Vestibule

structure Organization where
  id : Uuid
  projectId : Uuid
  displayName : String
  loginsDisabled : Bool
  loginMethods : LoginMethods
  requireMfa : Bool
  domains : List String
  createTime : Instant
  updateTime : Instant
  deriving DecidableEq, Repr

namespace Organization

def new (id : Uuid) (now : Instant) (projectId : Uuid) (displayName : String) : Organization where
  id := id
  projectId := projectId
  displayName := displayName
  loginsDisabled := false
  loginMethods := .none
  requireMfa := false
  domains := []
  createTime := now
  updateTime := now

/-- A second factor can only be demanded where a method for one is enabled. -/
def mfaEnforceable (o : Organization) : Bool := o.requireMfa && o.loginMethods.hasSecondFactor

def fields : List String :=
  ["id", "project_id", "display_name", "logins_disabled", "login_methods", "require_mfa",
    "domains", "create_time", "update_time"]

def members (o : Organization) : List (String × Json) :=
  [("id", .ofUuid o.id),
    ("project_id", .ofUuid o.projectId),
    ("display_name", .string o.displayName),
    ("logins_disabled", .bool o.loginsDisabled),
    ("login_methods", o.loginMethods.toJson),
    ("require_mfa", .bool o.requireMfa),
    ("domains", .array (o.domains.map .string)),
    ("create_time", .ofInstant o.createTime),
    ("update_time", .ofInstant o.updateTime)]

def toJson (o : Organization) : Json := .object o.members

def ofJson? (j : Json) : Option Organization := do
  let r ← Row.ofJson? fields j
  return {
    id := ← r.required "id" Json.uuid?
    projectId := ← r.required "project_id" Json.uuid?
    displayName := ← r.required "display_name" Json.string?
    loginsDisabled := ← r.flag "logins_disabled"
    loginMethods := ← r.defaulted "login_methods" .none LoginMethods.ofJson?
    requireMfa := ← r.flag "require_mfa"
    domains := ← r.defaulted "domains" [] Json.strings?
    createTime := ← r.required "create_time" Json.instant?
    updateTime := ← r.required "update_time" Json.instant? }

end Organization

end Vestibule
