import Vestibule.Flow.Service

/-! Stand-ins for the outside services, with answers that are fixed beforehand. -/

namespace Vestibule

structure StandIns where
  identity : Option RedeemedIdentity
  /-- The email that every assertion names. -/
  assertedEmail : Option String
  breachedPasswords : List String
  /-- Services that fail, by name. -/
  failure? : String → Option ProviderError

namespace StandIns

/-- The text before every `tail` at its end. -/
def withoutTails (tail : List Char) : Nat → List Char → List Char
  | 0, text => text
  | n + 1, text =>
    if tail.isSuffixOf text then withoutTails tail n (text.take (text.length - tail.length))
    else text

/-- The root below which a configuration document lies. -/
def issuerRoot (configurationUrl : String) : String :=
  let text := configurationUrl.toList
  String.ofList (withoutTails "/.well-known/openid-configuration".toList text.length text)

/-- A service that fails does so whatever it is asked. -/
def reply (s : StandIns) (r : ServiceRequest) : r.Reply :=
  match r, s.failure? r.service with
  | .discover _, some e | .decrypt .., some e | .redeem .., some e | .checkBreach _, some e
  | .sendMail _, some e => .error e
  | .validateAssertion .., some e => .error e.message
  | .discover url, none => .ok ⟨.oidc, .rootedAt (issuerRoot url), ["openid", "email"]⟩
  | .decrypt _ ciphertext, none => .ok ("plain:" ++ String.ofList (Utf8.decodeLossy ciphertext))
  | .redeem .., none =>
    match s.identity with
    | some identity => .ok identity
    | none => .error (.invalidResponse "no identity configured")
  | .checkBreach password, none => .ok (s.breachedPasswords.contains password)
  | .validateAssertion .., none =>
    match s.assertedEmail with
    | some email => .ok email
    | none => .error "assertion has no email"
  | .sendMail _, none => .ok ()

end StandIns

end Vestibule
