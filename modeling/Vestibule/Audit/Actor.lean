import Vestibule.Json.Record

/-! Who caused an audited change. -/

namespace Vestibule.Audit

inductive Actor where
  | consoleUser (userId sessionId : Uuid)
  | backendApiKey (apiKeyId : Uuid)
  | intermediateSession (intermediateSessionId : Uuid)
  | scimApiKey (scimApiKeyId : Uuid)
  | session (userId sessionId : Uuid)
  deriving DecidableEq, Repr

namespace Actor

def kind : Actor → String
  | consoleUser .. => "console_user"
  | backendApiKey .. => "backend_api_key"
  | intermediateSession .. => "intermediate_session"
  | scimApiKey .. => "scim_api_key"
  | session .. => "session"

def members : Actor → List (String × Json)
  | consoleUser userId sessionId | session userId sessionId =>
    [("user_id", .ofUuid userId), ("session_id", .ofUuid sessionId)]
  | backendApiKey id => [("api_key_id", .ofUuid id)]
  | intermediateSession id => [("intermediate_session_id", .ofUuid id)]
  | scimApiKey id => [("scim_api_key_id", .ofUuid id)]

def toJson (a : Actor) : Json := .ofTagged a.kind a.members

def ofJson? (j : Json) : Option Actor := do
  let (tag, body) ← j.tagged?
  match tag with
  | "console_user" =>
    let r ← Row.ofJson? ["user_id", "session_id"] body
    return consoleUser (← r.required "user_id" Json.uuid?) (← r.required "session_id" Json.uuid?)
  | "backend_api_key" =>
    let r ← Row.ofJson? ["api_key_id"] body
    return backendApiKey (← r.required "api_key_id" Json.uuid?)
  | "intermediate_session" =>
    let r ← Row.ofJson? ["intermediate_session_id"] body
    return intermediateSession (← r.required "intermediate_session_id" Json.uuid?)
  | "scim_api_key" =>
    let r ← Row.ofJson? ["scim_api_key_id"] body
    return scimApiKey (← r.required "scim_api_key_id" Json.uuid?)
  | "session" =>
    let r ← Row.ofJson? ["user_id", "session_id"] body
    return session (← r.required "user_id" Json.uuid?) (← r.required "session_id" Json.uuid?)
  | _ => none

end Actor

/-- What kind of thing an audited change was made to. -/
inductive ResourceType where
  | intermediateSession
  | user
  | session
  deriving DecidableEq, Repr

namespace ResourceType

def all : List ResourceType := [intermediateSession, user, session]

def name : ResourceType → String
  | intermediateSession => "intermediate_session"
  | user => "user"
  | session => "session"

def ofName? (s : String) : Option ResourceType := all.find? (·.name == s)

def toJson (r : ResourceType) : Json := .string r.name

def ofJson? (j : Json) : Option ResourceType := j.caseName?.bind ofName?

end ResourceType

end Vestibule.Audit
