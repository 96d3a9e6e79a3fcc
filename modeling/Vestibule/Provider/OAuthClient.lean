import Vestibule.Http.Conversation
import Vestibule.Json.Record
import Vestibule.Provider.Spec

/-! The client of identity providers: authorize URLs, redemption of codes, and discovery. -/

namespace Vestibule

namespace OAuthClient

/-- The URLs that every use of a client needs. -/
structure Urls where
  authorize : Url
  token : Url

def checkUrl (what text : String) : Except ProviderError Url :=
  match Url.read text with
  | .ok u => .ok u
  | .error e => .error (.configuration (what ++ ": " ++ e.message))

def urls (spec : ProviderSpec) (redirectUri : String) : Except ProviderError Urls := do
  let authorize ← checkUrl "authorize url" spec.endpoints.authorizeUrl
  let token ← checkUrl "token url" spec.endpoints.tokenUrl
  let _ ← checkUrl "redirect uri" redirectUri
  return ⟨authorize, token⟩

/-- The URL that asks the visitor to log in. The redirect URI is passed on as it was given. -/
def authorizeUrl (spec : ProviderSpec) (clientId redirectUri state : String) :
    Except ProviderError String := do
  let urls ← urls spec redirectUri
  let scope := " ".intercalate spec.scopes
  return toString <| urls.authorize.appendPairs <|
    [("response_type", "code"), ("client_id", clientId), ("state", state),
      ("redirect_uri", redirectUri)] ++ (if scope = "" then [] else [("scope", scope)])

def userAgent : String := "portcullis/0.1.0"

def get (url : String) (accessToken : Option String) : Except TransportFault HttpRequest :=
  HttpRequest.build .get url
    ([("accept", "application/json"), ("user-agent", userAgent)] ++
      (accessToken.map fun t => ("authorization", "Bearer " ++ t)).toList) []

/-- A record from a provider, with retries. -/
def getRecord {α : Type} (p : RetryPolicy) (url : String) (accessToken : Option String)
    (decode : Json → Option α) : ProviderConversation α :=
  .retrying p (.fetchRecord (get url accessToken) decode)

/-- The request that redeems a code. -/
def tokenRequest (token : Url) (app : OAuthApp) (code : String) :
    Except TransportFault HttpRequest :=
  HttpRequest.build .post (toString token)
    [("accept", "application/json"), ("content-type", "application/x-www-form-urlencoded"),
      ("user-agent", userAgent)]
    (Utf8.encode <| String.ofList <| Percent.form
      [("grant_type", "authorization_code"), ("code", code), ("client_id", app.clientId),
        ("client_secret", app.clientSecret), ("redirect_uri", app.redirectUri)])

/-- The JSON value that a body begins with; what follows it does not count. -/
def leadingJson? (body : List UInt8) : Option Json := do
  let text := body.map fun b => Char.ofNat b.toNat
  let (j, _) ← Json.value? (2 * text.length + 2) Json.depthLimit text
  return j

/-- An error as OAuth servers report it: its code, and a description and a page where given. -/
def tokenRefusal? (j : Json) : Option String := do
  let r ← Row.ofJson? ["error", "error_description", "error_uri"] j
  let text? := fun name => r.defaulted name none (Json.optionOf? Json.string?)
  let error ← r.required "error" Json.string?
  let description ← text? "error_description"
  let page ← text? "error_uri"
  return error ++ ((description.map (": " ++ ·)).getD "") ++ ((page.map (" / See " ++ ·)).getD "")

/-- The access token of a token answer, whose other fields must be well formed, too, and all of
which must be readable. -/
def accessToken? (j : Json) : Option String := do
  let members ← (← j.readable?).object?
  let r ← Row.ofJson? ["access_token", "token_type", "expires_in", "refresh_token", "scope"]
    (.object members)
  let _ ← r.required "token_type" Json.string?
  let _ ← r.optional "expires_in" (Json.intIn? 0 18446744073709551615)
  let _ ← r.optional "refresh_token" Json.string?
  let _ ← r.optional "scope" Json.string?
  r.required "access_token" Json.string?

/-- Whether a content type is one of JSON. None is that holds more than visible characters of ASCII,
spaces and tabs. -/
def isJsonType (contentType : String) : Bool :=
  contentType.toList.all (fun c => c == '\t' || (0x20 ≤ c.toNat && c.toNat < 0x7F)) &&
    (Text.after? "application/json".toList (contentType.toList.map Text.toAsciiLower)).isSome

/-- What an answer from the token endpoint comes to. A code is rejected by an error that the server
reports without a failure of its own, and by any answer of a status from 400 to 499; other bad
answers are the server's fault. -/
def readToken (response : HttpResponse) : Except ProviderError String :=
  let isRefused := 400 ≤ response.status && response.status < 500
  let unusable := fun (m : String) =>
    Except.error (if isRefused then .codeRejected m else ProviderError.invalidResponse m)
  let unreadable := fun (m : String) =>
    Except.error (if isRefused then .codeRejected m
      else .invalidResponse ("token response (" ++ toString response.status ++ "): " ++ m))
  if 500 ≤ response.status ∧ response.status < 600 then
    .error (.apiError response.status response.text)
  else if response.status ≠ 200 then
    if response.body.isEmpty then unusable "Server returned empty error response"
    else
      match (leadingJson? response.body).bind tokenRefusal? with
      | some refusal => .error (.codeRejected refusal)
      | none => unreadable "not an error response"
  else if (response.header? "content-type").any fun t => !isJsonType t then
    unusable "Unexpected response Content-Type"
  else if response.body.isEmpty then unusable "Server returned empty response body"
  else
    match (leadingJson? response.body).bind accessToken? with
    | some token => .ok token
    | none => unreadable "not a token response"

/-- Sends the one request that a code allows. -/
def redeemToken (token : Url) (app : OAuthApp) (code : String) : ProviderConversation String := do
  let response ← .fetch (tokenRequest token app code)
  match readToken response with
  | .ok token => return token
  | .error e => throw e

structure GoogleProfile where
  subject : String
  email : String
  emailVerified : Bool
  name : Option String
  picture : Option String
  hostedDomain : Option String

def GoogleProfile.ofJson? (j : Json) : Option GoogleProfile := do
  let r ← Row.ofJson? ["sub", "email", "email_verified", "name", "picture", "hd"] j
  return {
    subject := ← r.required "sub" Json.string?
    email := ← r.required "email" Json.string?
    emailVerified := ← r.flag "email_verified"
    name := ← r.optional "name" Json.string?
    picture := ← r.optional "picture" Json.string?
    hostedDomain := ← r.optional "hd" Json.string? }

structure OidcProfile where
  subject : String
  email : Option String
  emailVerified : Option Bool
  name : Option String
  picture : Option String

def OidcProfile.ofJson? (j : Json) : Option OidcProfile := do
  let r ← Row.ofJson? ["sub", "email", "email_verified", "name", "picture"] j
  return {
    subject := ← r.required "sub" Json.string?
    email := ← r.optional "email" Json.string?
    emailVerified := ← r.optional "email_verified" Json.bool?
    name := ← r.optional "name" Json.string?
    picture := ← r.optional "picture" Json.string? }

structure GithubProfile where
  id : Nat
  login : String
  name : Option String
  avatarUrl : Option String

def GithubProfile.ofJson? (j : Json) : Option GithubProfile := do
  let r ← Row.ofJson? ["id", "login", "name", "avatar_url"] j
  return {
    id := (← r.required "id" (Json.intIn? 0 18446744073709551615)).toNat
    login := ← r.required "login" Json.string?
    name := ← r.optional "name" Json.string?
    avatarUrl := ← r.optional "avatar_url" Json.string? }

structure GithubEmail where
  email : String
  primary : Bool
  verified : Bool

def GithubEmail.ofJson? (j : Json) : Option GithubEmail := do
  let r ← Row.ofJson? ["email", "primary", "verified"] j
  return {
    email := ← r.required "email" Json.string?
    primary := ← r.required "primary" Json.bool?
    verified := ← r.required "verified" Json.bool? }

/-- The person that an access token speaks for. Microsoft never vouches for an email. GitHub's email
is the first that is marked as the primary one. -/
def fetchIdentity (p : RetryPolicy) (spec : ProviderSpec) (token : String) :
    ProviderConversation RedeemedIdentity := do
  let url := spec.endpoints.userinfoUrl
  match spec.kind with
  | .google =>
    let profile ← getRecord p url (some token) GoogleProfile.ofJson?
    return ⟨profile.subject, profile.email, profile.emailVerified, profile.name, profile.picture,
      profile.hostedDomain⟩
  | .microsoft =>
    let profile ← getRecord p url (some token) OidcProfile.ofJson?
    let email ← .need profile.email (.invalidResponse "microsoft account has no email")
    return ⟨profile.subject, email, false, profile.name, profile.picture, none⟩
  | .github =>
    let profile ← getRecord p url (some token) GithubProfile.ofJson?
    let emailsUrl ← .need spec.endpoints.emailsUrl
      (.configuration "github emails url is not configured")
    let emails ← getRecord p emailsUrl (some token) (Json.listOf? GithubEmail.ofJson?)
    let primary ← .need (emails.find? (·.primary))
      (.invalidResponse "github account has no primary email")
    return ⟨toString profile.id, primary.email, primary.verified,
      some (profile.name.getD profile.login), profile.avatarUrl, none⟩
  | .oidc =>
    let profile ← getRecord p url (some token) OidcProfile.ofJson?
    let email ← .need profile.email (.invalidResponse "oidc userinfo has no email")
    return ⟨profile.subject, email, profile.emailVerified.getD false, profile.name,
      profile.picture, none⟩

/-- Redeems a code for the person behind it, who must have a subject. -/
def redeem (p : RetryPolicy) (spec : ProviderSpec) (app : OAuthApp) (code : String) :
    ProviderConversation RedeemedIdentity := do
  match urls spec app.redirectUri with
  | .error e => throw e
  | .ok urls =>
    let token ← redeemToken urls.token app code
    let identity ← fetchIdentity p spec token
    if identity.subject = "" then throw (.invalidResponse "empty subject")
    else return identity

/-- What a discovery document says of its provider, and where the profile is, if it says so. -/
def readDiscovery? (j : Json) : Option (ProviderEndpoints × Option String) := do
  let r ← Row.ofJson?
    ["issuer", "authorization_endpoint", "token_endpoint", "userinfo_endpoint"] j
  let _ ← r.required "issuer" Json.string?
  let authorizeUrl ← r.required "authorization_endpoint" Json.string?
  let tokenUrl ← r.required "token_endpoint" Json.string?
  let userinfoUrl ← r.optional "userinfo_endpoint" Json.string?
  return (⟨authorizeUrl, tokenUrl, userinfoUrl.getD "", none⟩, userinfoUrl)

/-- Reads the configuration document of a provider. -/
def discover (p : RetryPolicy) (configurationUrl : String) : ProviderConversation ProviderSpec := do
  let (endpoints, userinfoUrl) ← getRecord p configurationUrl none readDiscovery?
  let _ ← .need userinfoUrl (.invalidResponse "discovery document has no userinfo_endpoint")
  return ⟨.oidc, endpoints, ["openid", "email", "profile"]⟩

end OAuthClient

end Vestibule
