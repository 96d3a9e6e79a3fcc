import Vestibule.Config.Auth
import Vestibule.Json.Record
import Vestibule.Signature.Ber
import Vestibule.Signature.P256
import Vestibule.Signature.Pem
import Vestibule.Signature.Rsa

/-! The algorithms that access tokens are signed with, and their keys. -/

namespace Vestibule

inductive JwtAlgorithm where
  | hs256
  | hs384
  | hs512
  | rs256
  | es256
  deriving DecidableEq, Repr

namespace JwtAlgorithm

def all : List JwtAlgorithm := [hs256, hs384, hs512, rs256, es256]

def name : JwtAlgorithm → String
  | hs256 => "HS256"
  | hs384 => "HS384"
  | hs512 => "HS512"
  | rs256 => "RS256"
  | es256 => "ES256"

def ofName? (s : String) : Option JwtAlgorithm := all.find? (·.name == s)

def toJson (a : JwtAlgorithm) : Json := .string a.name

def ofJson? (j : Json) : Option JwtAlgorithm := j.caseName?.bind ofName?

end JwtAlgorithm

structure JwtConfig where
  secret : Option String
  privateKey : Option String
  publicKey : Option String
  algorithm : JwtAlgorithm
  issuer : String
  audience : List String
  lifetime : Span
  deriving DecidableEq, Repr

def JwtConfig.ofAuthConfig (c : AuthConfig) : JwtConfig where
  secret := some c.accessTokenSecret
  privateKey := none
  publicKey := none
  algorithm := .hs256
  issuer := c.accessTokenIssuer
  audience := []
  lifetime := c.accessTokenLifetime

/-- Why a key in PEM cannot be used. -/
inductive KeyFault where
  | format
  | content
  deriving DecidableEq, Repr

def KeyFault.message : KeyFault → String
  | format => "InvalidKeyFormat"
  | content => "InvalidEcdsaKey"

/-- The kinds of keys that PEM files hold. -/
inductive KeyFamily where
  | rsa
  | curve
  | edwards
  deriving DecidableEq, Repr

/-- A key file: its family, whether it holds a private key, and its DER. Files of the old RSA form
hold the bare key. -/
structure KeyFile where
  family : KeyFamily
  isPrivate : Bool
  bare : Bool
  content : List UInt8
  items : List Ber

namespace KeyFile

/-- The family of an object identifier. -/
def familyOf? (id : List Nat) : Option KeyFamily :=
  if id = [1, 2, 840, 10045, 2, 1] then some .curve
  else if id = [1, 2, 840, 113549, 1, 1, 1] then some .rsa
  else if id = [1, 3, 101, 112] then some .edwards
  else none

/-- The family that the first known object identifier names. -/
def classify? (items : List Ber) : Option KeyFamily :=
  Ber.firstOf? (fun d => match d with
    | .objectId id => familyOf? id
    | _ => none) items

def read? (text : String) : Option KeyFile := do
  let pem ← Pem.read? text
  let items ← Ber.read? pem.content
  match pem.label with
  | "RSA PRIVATE KEY" => return ⟨.rsa, true, true, pem.content, items⟩
  | "RSA PUBLIC KEY" => return ⟨.rsa, false, true, pem.content, items⟩
  | "PRIVATE KEY" => return ⟨← classify? items, true, false, pem.content, items⟩
  | "PUBLIC KEY" | "CERTIFICATE" => return ⟨← classify? items, false, false, pem.content, items⟩
  | _ => none

/-- The bytes of a key inside its file. -/
def inner (f : KeyFile) : Except KeyFault (List UInt8) :=
  match Ber.firstString? f.items with
  | some bytes => .ok bytes
  | none => .error .content

/-- The bytes of an RSA key. -/
def rsa (text : String) : Except KeyFault (List UInt8) :=
  match read? text with
  | some f => if f.family ≠ .rsa then .error .format else if f.bare then .ok f.content else f.inner
  | none => .error .format

/-- The whole content of a private key of an elliptic curve. -/
def curvePrivate (text : String) : Except KeyFault (List UInt8) :=
  match read? text with
  | some f => if f.family = .curve ∧ f.isPrivate then .ok f.content else .error .format
  | none => .error .format

/-- The point of a public key of an elliptic curve. -/
def curvePublic (text : String) : Except KeyFault (List UInt8) :=
  match read? text with
  | some f => if f.family = .curve ∧ ¬ f.isPrivate then f.inner else .error .format
  | none => .error .format

end KeyFile

/-- The bytes that sign and the bytes that check. Whether they are a key shows when they are used. -/
structure JwtKeys where
  signing : List UInt8
  checking : List UInt8
  deriving DecidableEq, Repr

namespace JwtKeys

def secret (c : JwtConfig) : Except ConfigError (List UInt8) :=
  match c.secret.filter (· ≠ "") with
  | some s => .ok (Utf8.encode s)
  | none => .error (.invalid "secret" "required for HMAC")

def keyFile (field family what : String) (text : Option String)
    (read : String → Except KeyFault (List UInt8)) : Except ConfigError (List UInt8) :=
  match text with
  | none => .error (.invalid field ("required for " ++ family))
  | some text =>
    (read text).mapError fun fault =>
      .invalid field ("invalid " ++ family ++ " " ++ what ++ " key: " ++ fault.message)

def ofConfig (c : JwtConfig) : Except ConfigError JwtKeys :=
  match c.algorithm with
  | .hs256 | .hs384 | .hs512 => do
    let s ← secret c
    return ⟨s, s⟩
  | .rs256 => do
    let signing ← keyFile "private_key" "RSA" "private" c.privateKey KeyFile.rsa
    let checking ← keyFile "public_key" "RSA" "public" c.publicKey KeyFile.rsa
    return ⟨signing, checking⟩
  | .es256 => do
    let signing ← keyFile "private_key" "EC" "private" c.privateKey KeyFile.curvePrivate
    let checking ← keyFile "public_key" "EC" "public" c.publicKey KeyFile.curvePublic
    return ⟨signing, checking⟩

end JwtKeys

namespace JwtAlgorithm

/-- The digest of an algorithm with a shared secret. -/
def hash? : JwtAlgorithm → Option HashFunction
  | hs256 => some .sha256
  | hs384 => some .sha384
  | hs512 => some .sha512
  | rs256 | es256 => none

/-- The signature of a message, unless the bytes are no key. -/
def sign? (a : JwtAlgorithm) (k : JwtKeys) (message : List UInt8) : Option (List UInt8) :=
  match a with
  | hs256 => some (HashFunction.sha256.hmac k.signing message)
  | hs384 => some (HashFunction.sha384.hmac k.signing message)
  | hs512 => some (HashFunction.sha512.hmac k.signing message)
  | rs256 => (Rsa.PrivateKey.read? k.signing).bind (Rsa.sign? · message)
  | es256 => (P256.secret? k.signing).map (P256.sign · message)

/-- Whether the text of a signature is that of the message. A shared secret gives one text; other
signatures are decoded first, and `none` says that this is not possible. -/
def check? (a : JwtAlgorithm) (k : JwtKeys) (message : List UInt8) (signature : List Char) :
    Option Bool :=
  match a.hash? with
  | some h => some (Base64.encode .url (h.hmac k.checking message) == signature)
  | none => do
    let bytes ← Base64.decode? .url signature
    match a with
    | rs256 => return (Rsa.PublicKey.read? k.checking).any (Rsa.verify · message bytes)
    | _ => return (P256.Point.read? k.checking).any (P256.verify · message bytes)

end JwtAlgorithm

end Vestibule
