import Vestibule.Json.Settings
import Vestibule.Store.Basic

/-! Stored things of any kind, and their JSON as the store holds them. -/

namespace Vestibule

inductive RecordKind where
  | project
  | organization
  | user
  | samlConnection
  | oidcConnection
  | intermediateSession
  | session
  | verifiedEmail
  deriving DecidableEq, Repr

namespace RecordKind

/-- Every kind, each after the kinds that it refers to. -/
def all : List RecordKind :=
  [project, organization, user, samlConnection, oidcConnection, intermediateSession, session,
    verifiedEmail]

def name : RecordKind → String
  | project => "project"
  | organization => "organization"
  | user => "user"
  | samlConnection => "saml_connection"
  | oidcConnection => "oidc_connection"
  | intermediateSession => "intermediate_session"
  | session => "session"
  | verifiedEmail => "verified_email"

def ofName? (s : String) : Option RecordKind := all.find? (·.name == s)

end RecordKind

inductive Record where
  | project (record : Project)
  | organization (record : Organization)
  | user (record : User)
  | samlConnection (record : SamlConnection)
  | oidcConnection (record : OidcConnection)
  | intermediateSession (record : IntermediateSession)
  | session (record : Session)
  | verifiedEmail (record : VerifiedEmail)
  deriving DecidableEq, Repr

namespace Record

/-- A new record of a kind, made from the parts that `j` gives; none where it would expire after the
end of the calendar. An email that comes with a provider is attested by it. -/
def new? (id : Uuid) (now : Instant) (j : Json) : RecordKind → Option Record :=
  let owner := j.uuidOr "owner" .nil
  let text := fun name => j.textOr name ""
  let expire? := now.add? (.ofMillis (j.intOr "ttl_ms" 0))
  fun
    | .project => project (.new id now (text "name"))
    | .organization => organization (.new id now owner (text "name"))
    | .user => user (.new id now owner (text "email"))
    | .samlConnection => samlConnection (.new id now owner)
    | .oidcConnection => oidcConnection
        (.new id now owner (text "url") (text "client_id") (Utf8.encode (text "ciphertext")))
    | .intermediateSession =>
      expire?.map fun expire => intermediateSession (.new id now owner expire)
    | .session =>
      let factor := (PrimaryAuthFactor.ofName? (text "factor")).getD .password
      expire?.map fun expire => session (.new id now owner [] factor expire)
    | .verifiedEmail => verifiedEmail <|
        match OAuthProvider.ofName? (text "provider") with
        | some provider => .byProvider id now owner (text "email") provider (text "subject")
        | none => .byChallenge id now owner (text "email")

def members : Record → List (String × Json)
  | project r => r.members
  | organization r => r.members
  | user r => r.members
  | samlConnection r => r.members
  | oidcConnection r => r.members
  | intermediateSession r => r.members
  | session r => r.members
  | verifiedEmail r => r.members

/-- The fields that are read but never shown. -/
def hiddenMembers : Record → List (String × Json)
  | user r => r.hiddenMembers
  | intermediateSession r => r.hiddenMembers
  | session r => r.hiddenMembers
  | _ => []

def toJson (r : Record) : Json := .object r.members

/-- All fields, the hidden ones included. -/
def storedJson (r : Record) : Json := .object (r.members ++ r.hiddenMembers)

def ofJson? (j : Json) : RecordKind → Option Record
  | .project => (Project.ofJson? j).map project
  | .organization => (Organization.ofJson? j).map organization
  | .user => (User.ofJson? j).map user
  | .samlConnection => (SamlConnection.ofJson? j).map samlConnection
  | .oidcConnection => (OidcConnection.ofJson? j).map oidcConnection
  | .intermediateSession => (IntermediateSession.ofJson? j).map intermediateSession
  | .session => (Session.ofJson? j).map session
  | .verifiedEmail => (VerifiedEmail.ofJson? j).map verifiedEmail

/-- What follows from a record at a time, beside its fields. -/
def facts (now : Instant) : Record → List (String × Json)
  | project r => [("email_from_address", .string r.emailFromAddress)]
  | organization r => [("mfa_enforceable", .bool r.mfaEnforceable)]
  | user r => [("is_active", .bool r.isActive), ("is_locked_out", .bool (r.isLockedOut now))]
  | intermediateSession r =>
    [("is_expired", .bool (r.isExpired now)), ("is_exchanged", .bool r.isExchanged),
      ("primary_factor_satisfied", .bool r.primaryFactorSatisfied),
      ("second_factor_satisfied", .bool r.secondFactorSatisfied),
      ("provider_subjects", .array (r.providerSubjects.map fun (provider, subject) =>
        .array [provider.toJson, .string subject]))]
  | session r => [("is_live", .bool (r.isLive now))]
  | samlConnection _ | oidcConnection _ | verifiedEmail _ => []

end Record

namespace Store

/-- Puts a record in place of the one of its kind and identifier, or adds it. Attestations are only
ever added. -/
def put (s : Store) : Record → Store
  | .project r => { s with projects := s.projects.put r }
  | .organization r => { s with organizations := s.organizations.put r }
  | .user r => { s with users := s.users.put r }
  | .samlConnection r => { s with samlConnections := s.samlConnections.put r }
  | .oidcConnection r => { s with oidcConnections := s.oidcConnections.put r }
  | .intermediateSession r => { s with intermediateSessions := s.intermediateSessions.put r }
  | .session r => { s with sessions := s.sessions.put r }
  | .verifiedEmail r => { s with verifiedEmails := s.verifiedEmails ++ [r] }

def record? (s : Store) (id : Uuid) : RecordKind → Option Record
  | .project => (s.projects.get? id).map .project
  | .organization => (s.organizations.get? id).map .organization
  | .user => (s.users.get? id).map .user
  | .samlConnection => (s.samlConnections.get? id).map .samlConnection
  | .oidcConnection => (s.oidcConnections.get? id).map .oidcConnection
  | .intermediateSession => (s.intermediateSessions.get? id).map .intermediateSession
  | .session => (s.sessions.get? id).map .session
  | .verifiedEmail => (s.verifiedEmails.find? (·.id == id)).map .verifiedEmail

/-- The record of a kind as a project sees it: what belongs to other projects is out of sight. -/
def recordSeenBy? (s : Store) (projectId id : Uuid) : RecordKind → Option Record
  | .project => (s.project? id).map .project
  | .organization => (s.organization? projectId id).map .organization
  | .user => (s.user? id).map .user
  | .samlConnection => (s.samlConnection? projectId id).map .samlConnection
  | .oidcConnection => (s.oidcConnection? projectId id).map .oidcConnection
  | .intermediateSession => (s.intermediateSession? projectId id).map .intermediateSession
  | .session => (s.sessions.get? id).map .session
  | .verifiedEmail => (s.verifiedEmails.find? (·.id == id)).map .verifiedEmail

/-- The users and sessions, each with its path. -/
def entries (s : Store) : List (String × Record) :=
  s.users.rows.map (fun r => ("users/" ++ toString r.id, .user r)) ++
    s.intermediateSessions.rows.map
      (fun r => ("intermediate_sessions/" ++ toString r.id, .intermediateSession r)) ++
    s.sessions.rows.map fun r => ("sessions/" ++ toString r.id, .session r)

/-- Adds a record where the rules of its kind allow it. -/
def create (s : Store) : Record → Except StoreError Store
  | .user r => s.createUser r
  | .session r => s.createSession r
  | .verifiedEmail r => .ok (s.recordVerifiedEmail r)
  | r => .ok (s.put r)

/-- Replaces a record that is there. -/
def update (s : Store) : Record → Except StoreError Store
  | .user r => s.updateUser r
  | .intermediateSession r => s.updateIntermediateSession r
  | r => .ok (s.put r)

end Store

end Vestibule
