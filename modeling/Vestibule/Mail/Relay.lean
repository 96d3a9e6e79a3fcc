import Vestibule.Config.Environment
import Vestibule.Json.Basic

/-! The relay that outgoing mail is handed to. -/

namespace Vestibule

structure MailRelay where
  host : String
  port : Nat
  username : String
  password : String
  deriving DecidableEq, Repr

def MailRelay.toJson (r : MailRelay) : Json :=
  .object [("host", .string r.host), ("port", .int r.port), ("username", .string r.username),
    ("password", .string r.password)]

/-- There is a relay only where its host and credentials are set. -/
def MailRelay.ofEnvironment? (env : Environment) : Option MailRelay := do
  return {
    host := ← env.nonempty? "PORTCULLIS_SMTP_HOST"
    username := ← env.nonempty? "PORTCULLIS_SMTP_USERNAME"
    password := ← env.nonempty? "PORTCULLIS_SMTP_PASSWORD"
    port := env.natOr 16 "PORTCULLIS_SMTP_PORT" 587 }

end Vestibule
