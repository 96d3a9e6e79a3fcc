import Vestibule.Json.Record

/-! Login methods, and the set of those that a tenant has enabled. -/

namespace Vestibule

inductive LoginMethod where
  | password
  | google
  | microsoft
  | github
  | email
  | saml
  | oidc
  | authenticatorApp
  | passkey
  deriving DecidableEq, Repr

namespace LoginMethod

def all : List LoginMethod :=
  [password, google, microsoft, github, email, saml, oidc, authenticatorApp, passkey]

def name : LoginMethod → String
  | password => "password"
  | google => "google"
  | microsoft => "microsoft"
  | github => "github"
  | email => "email"
  | saml => "saml"
  | oidc => "oidc"
  | authenticatorApp => "authenticator_app"
  | passkey => "passkey"

def ofName? (s : String) : Option LoginMethod := all.find? (·.name == s)

def toJson (m : LoginMethod) : Json := .string m.name

def ofJson? (j : Json) : Option LoginMethod := j.caseName?.bind ofName?

end LoginMethod

/-- The methods that are enabled. -/
structure LoginMethods where
  password : Bool := false
  google : Bool := false
  microsoft : Bool := false
  github : Bool := false
  email : Bool := false
  saml : Bool := false
  oidc : Bool := false
  authenticatorApp : Bool := false
  passkey : Bool := false
  deriving DecidableEq, Repr, Inhabited

namespace LoginMethods

def none : LoginMethods := {}

def all : LoginMethods := ⟨true, true, true, true, true, true, true, true, true⟩

def allows (ms : LoginMethods) : LoginMethod → Bool
  | .password => ms.password
  | .google => ms.google
  | .microsoft => ms.microsoft
  | .github => ms.github
  | .email => ms.email
  | .saml => ms.saml
  | .oidc => ms.oidc
  | .authenticatorApp => ms.authenticatorApp
  | .passkey => ms.passkey

def set (ms : LoginMethods) (m : LoginMethod) (on : Bool) : LoginMethods :=
  match m with
  | .password => { ms with password := on }
  | .google => { ms with google := on }
  | .microsoft => { ms with microsoft := on }
  | .github => { ms with github := on }
  | .email => { ms with email := on }
  | .saml => { ms with saml := on }
  | .oidc => { ms with oidc := on }
  | .authenticatorApp => { ms with authenticatorApp := on }
  | .passkey => { ms with passkey := on }

def enable (ms : LoginMethods) (m : LoginMethod) : LoginMethods := ms.set m true

def disable (ms : LoginMethods) (m : LoginMethod) : LoginMethods := ms.set m false

/-- Whether a method that can serve as a second factor is enabled. -/
def hasSecondFactor (ms : LoginMethods) : Bool := ms.authenticatorApp || ms.passkey

def fields : List String := LoginMethod.all.map LoginMethod.name

def toJson (ms : LoginMethods) : Json :=
  .object (LoginMethod.all.map fun m => (m.name, .bool (ms.allows m)))

def ofJson? (j : Json) : Option LoginMethods := do
  let r ← Row.ofJson? fields j
  let set := fun (ms : LoginMethods) (m : LoginMethod) => (r.flag m.name).map (ms.set m)
  LoginMethod.all.foldlM set LoginMethods.none

end LoginMethods

end Vestibule
