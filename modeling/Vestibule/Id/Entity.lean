import Vestibule.Id.Uuid
import Vestibule.Text.Chars

/-! The kinds of things that are stored, and their identifiers as texts with a tag that names the
kind, such as `user_` and 32 digits. -/

namespace Vestibule

inductive EntityKind where
  | project
  | organization
  | user
  | intermediateSession
  | session
  | samlConnection
  | oidcConnection
  deriving DecidableEq, Repr

/-- Why a text is no identifier of a kind. -/
inductive IdError where
  | wrongTag (kind : EntityKind)
  | malformed (kind : EntityKind)
  deriving DecidableEq, Repr

namespace EntityKind

def all : List EntityKind :=
  [project, organization, user, intermediateSession, session, samlConnection, oidcConnection]

def tag : EntityKind → String
  | project => "project_"
  | organization => "org_"
  | user => "user_"
  | intermediateSession => "intermediate_session_"
  | session => "session_"
  | samlConnection => "saml_connection_"
  | oidcConnection => "oidc_connection_"

def name : EntityKind → String
  | project => "project"
  | organization => "organization"
  | user => "user"
  | intermediateSession => "intermediate session"
  | session => "session"
  | samlConnection => "saml connection"
  | oidcConnection => "oidc connection"

def ofName? (s : String) : Option EntityKind := all.find? (·.name == s)

def formatId (f : EntityKind) (id : Uuid) : String :=
  String.ofList (f.tag.toList ++ id.simple)

/-- Reads the tag of the kind and exactly 32 digits. -/
def parseId (f : EntityKind) (text : String) : Except IdError Uuid :=
  match Text.after? f.tag.toList text.toList with
  | none => .error (.wrongTag f)
  | some body =>
    match Uuid.readSimple? body with
    | some id => .ok id
    | none => .error (.malformed f)

end EntityKind

namespace IdError

def name : IdError → String
  | wrongTag _ => "WrongPrefix"
  | malformed _ => "Malformed"

def message : IdError → String
  | wrongTag f => "expected id with prefix \"" ++ f.tag ++ "\""
  | malformed f => "malformed " ++ f.name ++ " id"

end IdError

end Vestibule
