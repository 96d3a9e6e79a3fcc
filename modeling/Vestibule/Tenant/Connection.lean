import Vestibule.Json.Record

/-! An organization's connections to identity providers of its own. -/

namespace Vestibule

structure SamlConnection where
  id : Uuid
  organizationId : Uuid
  primary : Bool
  idpRedirectUrl : Option String
  idpEntityId : Option String
  idpCertificate : Option String
  createTime : Instant
  deriving DecidableEq, Repr

namespace SamlConnection

def new (id : Uuid) (now : Instant) (organizationId : Uuid) : SamlConnection where
  id := id
  organizationId := organizationId
  primary := false
  idpRedirectUrl := none
  idpEntityId := none
  idpCertificate := none
  createTime := now

def fields : List String :=
  ["id", "organization_id", "primary", "idp_redirect_url", "idp_entity_id",
    "idp_x509_certificate", "create_time"]

def members (c : SamlConnection) : List (String × Json) :=
  [("id", .ofUuid c.id),
    ("organization_id", .ofUuid c.organizationId),
    ("primary", .bool c.primary),
    ("idp_redirect_url", .ofOption .string c.idpRedirectUrl),
    ("idp_entity_id", .ofOption .string c.idpEntityId),
    ("idp_x509_certificate", .ofOption .string c.idpCertificate),
    ("create_time", .ofInstant c.createTime)]

def toJson (c : SamlConnection) : Json := .object c.members

def ofJson? (j : Json) : Option SamlConnection := do
  let r ← Row.ofJson? fields j
  return {
    id := ← r.required "id" Json.uuid?
    organizationId := ← r.required "organization_id" Json.uuid?
    primary := ← r.flag "primary"
    idpRedirectUrl := ← r.optional "idp_redirect_url" Json.string?
    idpEntityId := ← r.optional "idp_entity_id" Json.string?
    idpCertificate := ← r.optional "idp_x509_certificate" Json.string?
    createTime := ← r.required "create_time" Json.instant? }

end SamlConnection

/-- A client at a provider that is found through its configuration document. -/
structure OidcConnection where
  id : Uuid
  organizationId : Uuid
  primary : Bool
  configurationUrl : String
  clientId : String
  secretCiphertext : List UInt8
  createTime : Instant
  deriving DecidableEq, Repr

namespace OidcConnection

def new (id : Uuid) (now : Instant) (organizationId : Uuid) (configurationUrl clientId : String)
    (secretCiphertext : List UInt8) : OidcConnection where
  id := id
  organizationId := organizationId
  primary := false
  configurationUrl := configurationUrl
  clientId := clientId
  secretCiphertext := secretCiphertext
  createTime := now

def fields : List String :=
  ["id", "organization_id", "primary", "configuration_url", "client_id",
    "client_secret_ciphertext", "create_time"]

def members (c : OidcConnection) : List (String × Json) :=
  [("id", .ofUuid c.id),
    ("organization_id", .ofUuid c.organizationId),
    ("primary", .bool c.primary),
    ("configuration_url", .string c.configurationUrl),
    ("client_id", .string c.clientId),
    ("client_secret_ciphertext", .ofBytes c.secretCiphertext),
    ("create_time", .ofInstant c.createTime)]

def toJson (c : OidcConnection) : Json := .object c.members

def ofJson? (j : Json) : Option OidcConnection := do
  let r ← Row.ofJson? fields j
  return {
    id := ← r.required "id" Json.uuid?
    organizationId := ← r.required "organization_id" Json.uuid?
    primary := ← r.flag "primary"
    configurationUrl := ← r.required "configuration_url" Json.string?
    clientId := ← r.required "client_id" Json.string?
    secretCiphertext := ← r.required "client_secret_ciphertext" Json.bytes?
    createTime := ← r.required "create_time" Json.instant? }

end OidcConnection

end Vestibule
