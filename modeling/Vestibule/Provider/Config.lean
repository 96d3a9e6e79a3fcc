import Vestibule.Config.Environment
import Vestibule.Config.Error
import Vestibule.Provider.Spec

/-! The platform's clients at providers and the services it relies on. -/

namespace Vestibule

/-- The service that unseals the client secrets of tenants. -/
structure KeyVaultConfig where
  baseUrl : String := "http://localhost:8200"
  token : String := ""
  mount : String := "transit"
  clientSecretKey : String := "oauth-client-secrets"
  deriving DecidableEq, Repr

/-- The URL of a path of the service, with one slash between the two. -/
def KeyVaultConfig.url (c : KeyVaultConfig) (path : String) : String :=
  ProviderEndpoints.withoutEndSlashes c.baseUrl ++ "/" ++
    String.ofList (path.toList.dropWhile (· == '/'))

/-- The service that knows breached passwords. -/
structure BreachLookupConfig where
  baseUrl : String := "https://api.pwnedpasswords.com"
  enabled : Bool := true
  deriving DecidableEq, Repr

structure ProviderConfig where
  google : OAuthApp
  microsoft : OAuthApp
  github : OAuthApp
  googleEndpoints : ProviderEndpoints := .ofProvider .google
  microsoftEndpoints : ProviderEndpoints := .ofProvider .microsoft
  githubEndpoints : ProviderEndpoints := .ofProvider .github
  keyVault : KeyVaultConfig := {}
  breachLookup : BreachLookupConfig := {}
  requestTimeoutSeconds : Nat := 10
  maxRetries : Nat := 3
  deriving DecidableEq, Repr

namespace ProviderConfig

def callbackUri (p : OAuthProvider) (base : String) : String :=
  ProviderEndpoints.withoutEndSlashes base ++ "/" ++ p.name ++ "-oauth-callback"

def defaultApp (p : OAuthProvider) : OAuthApp :=
  ⟨"", "", callbackUri p "http://localhost:3000"⟩

def default : ProviderConfig where
  google := defaultApp .google
  microsoft := defaultApp .microsoft
  github := defaultApp .github

/-- The beginning of the names of the variables of a provider. -/
def variableStem : OAuthProvider → String
  | .google => "PORTCULLIS_GOOGLE"
  | .microsoft => "PORTCULLIS_MICROSOFT"
  | .github => "PORTCULLIS_GITHUB"

/-- A redirect URI of its own comes before one below the common callback URL. -/
def appOfEnvironment (env : Environment) (p : OAuthProvider) : OAuthApp :=
  let stem := variableStem p
  let d := defaultApp p
  let callback := (env "PORTCULLIS_OAUTH_CALLBACK_BASE_URL").map (callbackUri p)
  { clientId := env.textOr (stem ++ "_CLIENT_ID") d.clientId
    clientSecret := env.textOr (stem ++ "_CLIENT_SECRET") d.clientSecret
    redirectUri := ((env (stem ++ "_REDIRECT_URI")).orElse fun _ => callback).getD d.redirectUri }

def ofEnvironment (env : Environment) : ProviderConfig :=
  let vault : KeyVaultConfig := {}
  let breach : BreachLookupConfig := {}
  { google := appOfEnvironment env .google
    microsoft := appOfEnvironment env .microsoft
    github := appOfEnvironment env .github
    keyVault := {
      baseUrl := env.textOr "PORTCULLIS_VAULT_URL" vault.baseUrl
      token := env.textOr "PORTCULLIS_VAULT_TOKEN" vault.token
      mount := env.textOr "PORTCULLIS_VAULT_TRANSIT_MOUNT" vault.mount
      clientSecretKey := env.textOr "PORTCULLIS_OAUTH_SECRET_KEY_NAME" vault.clientSecretKey }
    breachLookup := {
      baseUrl := env.textOr "PORTCULLIS_HIBP_URL" breach.baseUrl
      enabled := ((env "PORTCULLIS_HIBP_ENABLED").map fun s => s ≠ "false" && s ≠ "0").getD
        breach.enabled }
    requestTimeoutSeconds := env.natOr 64 "PORTCULLIS_PROVIDER_TIMEOUT_SECS" 10
    maxRetries := env.natOr 32 "PORTCULLIS_PROVIDER_MAX_RETRIES" 3 }

def app (c : ProviderConfig) : OAuthProvider → OAuthApp
  | .google => c.google
  | .microsoft => c.microsoft
  | .github => c.github

def endpoints (c : ProviderConfig) : OAuthProvider → ProviderEndpoints
  | .google => c.googleEndpoints
  | .microsoft => c.microsoftEndpoints
  | .github => c.githubEndpoints

def spec (c : ProviderConfig) (p : OAuthProvider) : ProviderSpec where
  kind := match p with
    | .google => .google
    | .microsoft => .microsoft
    | .github => .github
  endpoints := c.endpoints p
  scopes := match p with
    | .github => ["read:user", "user:email"]
    | _ => ["openid", "email", "profile"]

/-- A provider's client needs credentials and a callback over https. -/
def checkApp (c : ProviderConfig) (p : OAuthProvider) : Except ConfigError Unit :=
  let app := c.app p
  let stem := variableStem p
  if app.clientId = "" then .error (.missing (stem ++ "_CLIENT_ID"))
  else if app.clientSecret = "" then .error (.missing (stem ++ "_CLIENT_SECRET"))
  else if ¬ app.redirectUri.startsWith "https://" then
    .error (.invalid (stem ++ "_REDIRECT_URI") "must be an https URL")
  else .ok ()

/-- Refuses settings that a deployment cannot work with. -/
def checkForProduction (c : ProviderConfig) : Except ConfigError Unit := do
  OAuthProvider.all.forM c.checkApp
  if c.keyVault.token = "" then .error (.missing "PORTCULLIS_VAULT_TOKEN")

end ProviderConfig

end Vestibule
