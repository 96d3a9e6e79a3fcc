import Vestibule.Json.Record

/-! Keys as JSON objects, which the header of a token may show. Such a key is never used here, but a
header with a malformed one is malformed. -/

namespace Vestibule

inductive WebKey where
  | curve (name x y : String)
  | rsa (modulus exponent : String)
  | secret (value : String)
  | octetPair (curve x : String)
  deriving DecidableEq, Repr

namespace WebKey

/-- The fields that keys of all types may have. -/
def commonFields : List String :=
  ["use", "key_ops", "alg", "kid", "x5u", "x5c", "x5t", "x5t#S256"]

def algorithms : List String :=
  ["HS256", "HS384", "HS512", "ES256", "ES384", "RS256", "RS384", "RS512", "PS256", "PS384",
    "PS512", "EdDSA", "RSA1_5", "RSA-OAEP", "RSA-OAEP-256"]

def curves : List String := ["P-256", "P-384", "P-521", "Ed25519"]

/-- A case without fields, one of `names`. -/
def oneOf? (names : List String) (name : Option String) : Option String :=
  name.filter names.contains

/-- Whether the fields that keys of all types may have are well formed where they are given. -/
def hasCommonForm (j : Json) : Bool := Option.isSome do
  let r ← Row.ofJson? commonFields j
  let _ ← ["use", "kid", "x5u", "x5t", "x5t#S256"].mapM fun name => r.optional name Json.string?
  let _ ← ["key_ops", "x5c"].mapM fun name => r.optional name Json.strings?
  r.optional "alg" fun j => oneOf? algorithms j.innerCaseName?

/-- The fields of a key of one type. -/
def fields? (type : String) (names : List String) (j : Json) : Option Row := do
  let r ← Row.ofJson? ("kty" :: names) j
  let _ ← r.required "kty" fun j => oneOf? [type] j.caseName?
  return r

def curve? (r : Row) : Option String := r.required "crv" fun j => oneOf? curves j.caseName?

def text? (r : Row) (name : String) : Option String := r.required name Json.string?

/-- Reads the fields that the type of the key calls for. -/
def ofFields? (j : Json) : Option WebKey :=
  let curveKey := do
    let r ← fields? "EC" ["crv", "x", "y"] j
    return curve (← curve? r) (← text? r "x") (← text? r "y")
  let rsaKey := do
    let r ← fields? "RSA" ["n", "e"] j
    return rsa (← text? r "n") (← text? r "e")
  let secretKey := do
    let r ← fields? "oct" ["k"] j
    return secret (← text? r "k")
  let pairKey := do
    let r ← fields? "OKP" ["crv", "x"] j
    return octetPair (← curve? r) (← text? r "x")
  curveKey <|> rsaKey <|> secretKey <|> pairKey

def ofJson? (j : Json) : Option WebKey := do
  let members ← (← j.readable?).object?
  if hasCommonForm j then
    ofFields? (.object (members.filter fun m => !commonFields.contains m.1))
  else none

end WebKey

end Vestibule
