import Vestibule.Encoding.Base64
import Vestibule.Http.Conversation
import Vestibule.Json.Record
import Vestibule.Json.Writer
import Vestibule.Provider.Config

/-! The client of the service that unseals the client secrets of tenants. -/

namespace Vestibule.KeyVault

def decryptRequest (c : KeyVaultConfig) (key ciphertext : String) :
    Except TransportFault HttpRequest :=
  HttpRequest.build .post (c.url ("v1/" ++ c.mount ++ "/decrypt/" ++ key))
    [("accept", "*/*"), ("x-vault-token", c.token), ("content-type", "application/json")]
    (Utf8.encode (Json.object [("ciphertext", .string ciphertext)]).render)

/-- The encoded plaintext of an answer. -/
def readPlaintext? (j : Json) : Option String := do
  let data ← (← Row.ofJson? ["data"] j).required "data" some
  (← Row.ofJson? ["plaintext"] data).required "plaintext" Json.string?

/-- Unseals a ciphertext, which is text, to a plaintext, which is text too. -/
def decrypt (p : RetryPolicy) (c : KeyVaultConfig) (key : String) (ciphertext : List UInt8) :
    ProviderConversation String := do
  let ciphertext ← .need (Utf8.decode? ciphertext) (.invalidResponse "ciphertext is not utf-8")
  let encoded ← .retrying p (.fetchRecord (decryptRequest c key ciphertext) readPlaintext?)
  let bytes ← .need (Base64.decodePadded? .standard encoded.toList)
    (.invalidResponse "plaintext is not base64")
  .need (Utf8.decode? bytes) (.invalidResponse "plaintext is not utf-8")

end Vestibule.KeyVault
