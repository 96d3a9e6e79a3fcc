import Vestibule.Flow.Exchange
import Vestibule.Flow.OAuth
import Vestibule.Flow.Password
import Vestibule.Flow.Reset
import Vestibule.Flow.Saml

/-! The steps that a visitor may ask for on an intermediate session, and the answers to them. -/

namespace Vestibule

inductive LoginRequest where
  | issueEmailChallenge (email : String)
  | verifyEmailChallenge (code : String)
  | registerPassword (password : String)
  | verifyPassword (email : Option String) (password : String)
  | issueResetCode
  | verifyResetCode (code : String)
  | oauthRedirect (target : OAuthTarget) (redirectUrl : Option String)
  | redeemOAuth (target : OAuthTarget) (code state : String) (redirectUrl : Option String)
  | redeemSaml (connectionId : Uuid) (response : String)
  deriving DecidableEq, Repr

/-- A mail was sent, a URL is to be visited, or the session holds more evidence than before. -/
inductive LoginReply where
  | sent
  | visit (url : String)
  | proved (session : IntermediateSession)
  deriving DecidableEq, Repr

/-- The request of a name with the arguments that `j` gives. -/
def LoginRequest.ofJson? (name : String) (j : Json) : Option LoginRequest :=
  let text := fun key => j.textOr key ""
  match name with
  | "issue_email_challenge" => some (issueEmailChallenge (text "email"))
  | "verify_email_challenge" => some (verifyEmailChallenge (text "code"))
  | "register_password" => some (registerPassword (text "password"))
  | "verify_password" => some (verifyPassword (j.text? "email") (text "password"))
  | "issue_reset_code" => some issueResetCode
  | "verify_reset_code" => some (verifyResetCode (text "code"))
  | "oauth_redirect" =>
    (OAuthTarget.ofJson? (j.get "target")).map fun target =>
      oauthRedirect target (j.text? "redirect_url")
  | "redeem_oauth" =>
    (OAuthTarget.ofJson? (j.get "target")).map fun target =>
      redeemOAuth target (text "code") (text "state") (j.text? "redirect_url")
  | "redeem_saml" => some (redeemSaml (j.uuidOr "connection" .nil) (text "response"))
  | _ => none

/-- Carries out a request; `salt` is for a password that is registered. -/
def Service.perform (v : Service) (c : RequestContext) (salt : List UInt8) :
    LoginRequest → ServiceOperation LoginReply
  | .issueEmailChallenge email => (v.issueEmailChallenge c email).map fun _ => .sent
  | .verifyEmailChallenge code => (verifyEmailChallenge c code).map .proved
  | .registerPassword password => (v.registerPassword c salt password).map .proved
  | .verifyPassword email password => (v.verifyPassword c email password).map .proved
  | .issueResetCode => (v.issueResetCode c).map fun _ => .sent
  | .verifyResetCode code => (verifyResetCode c code).map .proved
  | .oauthRedirect target redirectUrl => (v.oauthRedirect c target redirectUrl).map .visit
  | .redeemOAuth target code state redirectUrl =>
    (v.redeemOAuth c target code state redirectUrl).map .proved
  | .redeemSaml connectionId response => (redeemSaml c connectionId response).map .proved

end Vestibule
