import Vestibule.Login.Gate
import Vestibule.Mail.Message
import Vestibule.Operation
import Vestibule.Password.Matcher
import Vestibule.Provider.Config
import Vestibule.Token.Jwt

/-! The login service: its settings and the outside services it asks. -/

namespace Vestibule

/-- A question to an outside service. -/
inductive ServiceRequest where
  | discover (configurationUrl : String)
  | decrypt (key : String) (ciphertext : List UInt8)
  | redeem (spec : ProviderSpec) (app : OAuthApp) (code : String)
  | checkBreach (password : String)
  | validateAssertion (connection : SamlConnection) (response : String)
  | sendMail (message : EmailMessage)
  deriving DecidableEq, Repr

/-- A valid assertion names an email; a refused one gives a reason. -/
def ServiceRequest.Reply : ServiceRequest → Type
  | discover _ => Except ProviderError ProviderSpec
  | decrypt .. => Except ProviderError String
  | redeem .. => Except ProviderError RedeemedIdentity
  | checkBreach _ => Except ProviderError Bool
  | validateAssertion .. => Except String String
  | sendMail _ => Except ProviderError Unit

namespace ServiceRequest

/-- The service that is asked. -/
def service : ServiceRequest → String
  | discover _ => "discover"
  | decrypt .. => "kms"
  | redeem .. => "redeem"
  | checkBreach _ => "breach"
  | validateAssertion .. => "saml"
  | sendMail _ => "email"

/-- What a log of calls keeps of a request. Passwords and mails are left out. -/
def toJson : ServiceRequest → Json
  | discover url => .object [("call", .string "oauth.discover"), ("url", .string url)]
  | decrypt key ciphertext =>
    .object [("call", .string "kms.decrypt"), ("key", .string key),
      ("ciphertext", .text (Utf8.decodeLossy ciphertext))]
  | redeem spec app code =>
    .object ([("call", .string "oauth.redeem"), ("kind", .string spec.kind.name),
      ("token_url", .string spec.endpoints.tokenUrl),
      ("scopes", .array (spec.scopes.map .string)), ("code", .string code)] ++ app.members)
  | checkBreach _ => .object [("call", .string "breach.check")]
  | validateAssertion connection response =>
    .object [("call", .string "saml.validate"), ("connection", .ofUuid connection.id),
      ("response", .string response)]
  | sendMail _ => .object [("call", .string "email.send")]

end ServiceRequest

def serviceInterface : Interface := ⟨ServiceRequest, ServiceRequest.Reply⟩

abbrev ServiceOperation := Operation serviceInterface

abbrev ServiceFetch := Fetch serviceInterface

namespace ServiceFetch

/-- Asks an outside service, whose failures become failures of the request. -/
def ofProvider {α : Type} (reply : Except ProviderError α)
    (failure : ProviderError → RequestError) : ServiceFetch α :=
  match reply with
  | .ok a => .done (.ok a)
  | .error e => .done (.error (failure e))

def discover (url : String) : ServiceFetch ProviderSpec :=
  .ask (.discover url) fun reply => ofProvider reply (.ofProvider .discover)

def decrypt (key : String) (ciphertext : List UInt8) : ServiceFetch String :=
  .ask (.decrypt key ciphertext) fun reply =>
    ofProvider reply (.ofProvider .decrypt)

def checkBreach (password : String) : ServiceFetch Bool :=
  .ask (.checkBreach password) fun reply =>
    ofProvider reply (.ofProvider .checkBreach)

/-- A code that the provider refuses is the caller's fault, anything else is not. -/
def redemptionError (e : ProviderError) : RequestError :=
  let refused := match e with
    | .codeRejected _ => true
    | .apiError status _ => 400 ≤ status && status < 500
    | _ => false
  if refused then .invalidArgument .codeRefused else .ofProvider .redeem e

def redeem (spec : ProviderSpec) (app : OAuthApp) (code : String) :
    ServiceFetch RedeemedIdentity :=
  .ask (.redeem spec app code) fun reply => ofProvider reply redemptionError

def validateAssertion (connection : SamlConnection) (response : String) : ServiceFetch String :=
  .ask (.validateAssertion connection response) fun reply =>
    match (reply : Except String String) with
    | .ok email => .done (.ok email)
    | .error reason => .done (.error (.invalidArgument (.assertionRejected reason)))

end ServiceFetch

/-- Sends a message with no bound on the wait, and ends with whether it was sent. -/
def ServiceOperation.send (message : EmailMessage) (call : ProviderCall) : ServiceOperation Unit :=
  .await false (.sendMail message) fun reply =>
    match (reply : Except ProviderError Unit) with
    | .ok _ => .finish (.ok ())
    | .error e => .finish (.error (.ofProvider call e))

/-- The settings that every operation works under. -/
structure Service where
  providers : ProviderConfig
  config : AuthConfig
  matcher : CredentialMatcher
  issuer : TokenIssuer

end Vestibule
