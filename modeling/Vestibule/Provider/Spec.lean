import Vestibule.Json.Settings
import Vestibule.Login.Factor

/-! What is known of an identity provider, of a client at it, and of a person it vouches for. -/

namespace Vestibule

inductive IdentityProviderKind where
  | google
  | microsoft
  | github
  | oidc
  deriving DecidableEq, Repr

namespace IdentityProviderKind

def all : List IdentityProviderKind := [google, microsoft, github, oidc]

def name : IdentityProviderKind → String
  | google => "google"
  | microsoft => "microsoft"
  | github => "github"
  | oidc => "oidc"

def ofName? (s : String) : Option IdentityProviderKind := all.find? (·.name == s)

end IdentityProviderKind

structure ProviderEndpoints where
  authorizeUrl : String
  tokenUrl : String
  userinfoUrl : String
  emailsUrl : Option String
  deriving DecidableEq, Repr

namespace ProviderEndpoints

def ofProvider : OAuthProvider → ProviderEndpoints
  | .google =>
    ⟨"https://accounts.google.com/o/oauth2/v2/auth", "https://oauth2.googleapis.com/token",
      "https://openidconnect.googleapis.com/v1/userinfo", none⟩
  | .microsoft =>
    ⟨"https://login.microsoftonline.com/common/oauth2/v2.0/authorize",
      "https://login.microsoftonline.com/common/oauth2/v2.0/token",
      "https://graph.microsoft.com/oidc/userinfo", none⟩
  | .github =>
    ⟨"https://github.com/login/oauth/authorize", "https://github.com/login/oauth/access_token",
      "https://api.github.com/user", some "https://api.github.com/user/emails"⟩

/-- A text without the slashes at its end. -/
def withoutEndSlashes (text : String) : String :=
  String.ofList ((text.toList.reverse.dropWhile (· == '/')).reverse)

/-- The endpoints of a provider that serves all of them below one URL. -/
def rootedAt (base : String) : ProviderEndpoints :=
  let base := withoutEndSlashes base
  ⟨base ++ "/authorize", base ++ "/token", base ++ "/userinfo", some (base ++ "/user/emails")⟩

end ProviderEndpoints

structure ProviderSpec where
  kind : IdentityProviderKind
  endpoints : ProviderEndpoints
  scopes : List String
  deriving DecidableEq, Repr

def ProviderSpec.toJson (s : ProviderSpec) : Json :=
  .object [("kind", .string s.kind.name),
    ("scopes", .array (s.scopes.map .string)),
    ("authorize_url", .string s.endpoints.authorizeUrl),
    ("token_url", .string s.endpoints.tokenUrl),
    ("userinfo_url", .string s.endpoints.userinfoUrl),
    ("emails_url", .ofOption .string s.endpoints.emailsUrl)]

/-- A client at a provider. -/
structure OAuthApp where
  clientId : String
  clientSecret : String
  redirectUri : String
  deriving DecidableEq, Repr

namespace OAuthApp

def members (a : OAuthApp) : List (String × Json) :=
  [("client_id", .string a.clientId), ("client_secret", .string a.clientSecret),
    ("redirect_uri", .string a.redirectUri)]

/-- The client with the settings that `j` gives. -/
def withSettings (a : OAuthApp) (j : Json) : OAuthApp where
  clientId := j.textOr "client_id" a.clientId
  clientSecret := j.textOr "client_secret" a.clientSecret
  redirectUri := j.textOr "redirect_uri" a.redirectUri

end OAuthApp

/-- The person that a provider vouches for. -/
structure RedeemedIdentity where
  subject : String
  email : String
  emailVerified : Bool
  displayName : Option String
  profilePictureUrl : Option String
  hostedDomain : Option String
  deriving DecidableEq, Repr

namespace RedeemedIdentity

def toJson (i : RedeemedIdentity) : Json :=
  .object [("subject", .string i.subject), ("email", .string i.email),
    ("email_verified", .bool i.emailVerified), ("display_name", .ofOption .string i.displayName),
    ("profile_picture_url", .ofOption .string i.profilePictureUrl),
    ("hosted_domain", .ofOption .string i.hostedDomain)]

/-- The identity of which `j` gives parts. -/
def ofSettings (j : Json) : RedeemedIdentity where
  subject := j.textOr "subject" ""
  email := j.textOr "email" ""
  emailVerified := j.flagOr "email_verified" false
  displayName := j.text? "display_name"
  profilePictureUrl := j.text? "profile_picture_url"
  hostedDomain := j.text? "hosted_domain"

end RedeemedIdentity

end Vestibule
