import Vestibule.Flow.Exchange

/-! Values that hold secrets, as logs may show them: each secret is replaced by one word. -/

namespace Vestibule

/-- What a log shows in place of a secret. -/
def redacted : Json := .string "[REDACTED]"

def Secret.logView (_ : Secret) : Json := .object [("plaintext", redacted)]

/-- Logs show whether there is a key, and nothing of the public one. -/
def JwtConfig.logView (c : JwtConfig) : Json :=
  .object [("secret", .ofOption (fun _ => redacted) c.secret),
    ("private_key", .ofOption (fun _ => redacted) c.privateKey),
    ("algorithm", c.algorithm.toJson),
    ("issuer", .string c.issuer),
    ("audience", .array (c.audience.map .string)),
    ("access_token_duration", .int c.lifetime.millis)]

def TokenIssuer.logView (t : TokenIssuer) : Json :=
  .object [("config", t.config.logView), ("encoding_key", redacted), ("decoding_key", redacted)]

def IssuedSession.logView (s : IssuedSession) : Json :=
  .object [("session", s.session.toJson), ("refresh_token", redacted)]

def ExchangedSession.logView (s : ExchangedSession) : Json :=
  .object [("session", s.session.toJson), ("user", s.user.toJson),
    ("user_created", .bool s.userCreated), ("refresh_token", redacted), ("access_token", redacted)]

/-- Nothing of what a store holds is shown. -/
def Store.logView (_ : Store) : Json := .object []

end Vestibule
