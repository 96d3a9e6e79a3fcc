import Vestibule.Login.Method

/-! Identity providers, the targets of an OAuth login, and the factor a login is founded on. -/

namespace Vestibule

inductive PrimaryAuthFactor where
  | password
  | email
  | google
  | microsoft
  | github
  | saml
  | oidc
  | passkey
  | authenticatorApp
  deriving DecidableEq, Repr

namespace PrimaryAuthFactor

def all : List PrimaryAuthFactor :=
  [password, email, google, microsoft, github, saml, oidc, passkey, authenticatorApp]

/-- The method that a tenant enables for this factor. -/
def loginMethod : PrimaryAuthFactor → LoginMethod
  | password => .password
  | email => .email
  | google => .google
  | microsoft => .microsoft
  | github => .github
  | saml => .saml
  | oidc => .oidc
  | passkey => .passkey
  | authenticatorApp => .authenticatorApp

def name (f : PrimaryAuthFactor) : String := f.loginMethod.name

def ofName? (s : String) : Option PrimaryAuthFactor := all.find? (·.name == s)

def toJson (f : PrimaryAuthFactor) : Json := .string f.name

def ofJson? (j : Json) : Option PrimaryAuthFactor := j.caseName?.bind ofName?

def ofInnerJson? (j : Json) : Option PrimaryAuthFactor := j.innerCaseName?.bind ofName?

end PrimaryAuthFactor

inductive OAuthProvider where
  | google
  | microsoft
  | github
  deriving DecidableEq, Repr

namespace OAuthProvider

def all : List OAuthProvider := [google, microsoft, github]

def loginMethod : OAuthProvider → LoginMethod
  | google => .google
  | microsoft => .microsoft
  | github => .github

def primaryAuthFactor : OAuthProvider → PrimaryAuthFactor
  | google => .google
  | microsoft => .microsoft
  | github => .github

def name (p : OAuthProvider) : String := p.loginMethod.name

def ofName? (s : String) : Option OAuthProvider := all.find? (·.name == s)

def toJson (p : OAuthProvider) : Json := .string p.name

def ofJson? (j : Json) : Option OAuthProvider := j.caseName?.bind ofName?

def ofInnerJson? (j : Json) : Option OAuthProvider := j.innerCaseName?.bind ofName?

end OAuthProvider

/-- What an OAuth login goes to: a provider of the platform, or an organization's own connection. -/
inductive OAuthTarget where
  | provider (provider : OAuthProvider)
  | oidcConnection (connectionId : Uuid)
  deriving DecidableEq, Repr

namespace OAuthTarget

def loginMethod : OAuthTarget → LoginMethod
  | provider p => p.loginMethod
  | oidcConnection _ => .oidc

def primaryAuthFactor : OAuthTarget → PrimaryAuthFactor
  | provider p => p.primaryAuthFactor
  | oidcConnection _ => .oidc

def toJson : OAuthTarget → Json
  | provider p => .ofTagged "provider" [("provider", p.toJson)]
  | oidcConnection id => .ofTagged "oidc_connection" [("connection_id", .ofUuid id)]

/-- The target of a tag with these fields. -/
def ofTagged? (tag : String) (body : Json) : Option OAuthTarget := do
  match tag with
  | "provider" =>
    let r ← Row.ofJson? ["provider"] body
    return provider (← r.required "provider" OAuthProvider.ofInnerJson?)
  | "oidc_connection" =>
    let r ← Row.ofJson? ["connection_id"] body
    return oidcConnection (← r.required "connection_id" Json.uuid?)
  | _ => none

def ofJson? (j : Json) : Option OAuthTarget :=
  j.tagged?.bind fun (tag, body) => ofTagged? tag body

def ofInnerJson? (j : Json) : Option OAuthTarget :=
  (j.innerTagged? ["provider", "oidc_connection"]).bind fun (tag, body) => ofTagged? tag body

end OAuthTarget

/-- A name that none of the cases of `kind` has. -/
structure UnknownName where
  kind : String
  value : String
  deriving DecidableEq, Repr

def UnknownName.message (e : UnknownName) : String := "unknown " ++ e.kind ++ ": " ++ e.value

def OAuthProvider.parse (s : String) : Except UnknownName OAuthProvider :=
  match ofName? s with
  | some p => .ok p
  | none => .error ⟨"oauth provider", s⟩

def PrimaryAuthFactor.parse (s : String) : Except UnknownName PrimaryAuthFactor :=
  match ofName? s with
  | some f => .ok f
  | none => .error ⟨"primary auth factor", s⟩

end Vestibule
