/-! Failures of outside services. -/

namespace Vestibule

/-- How a request failed before there was a whole answer. -/
inductive TransportFault where
  | timeout
  | connect
  | badRequest
  | tooManyRedirects
  | brokenBody
  deriving DecidableEq, Repr

def TransportFault.message : TransportFault → String
  | timeout => "operation timed out"
  | connect => "error trying to connect"
  | badRequest => "builder error"
  | tooManyRedirects => "too many redirects"
  | brokenBody => "error reading a body from connection"

inductive ProviderError where
  | requestFailed (fault : TransportFault)
  | apiError (status : Nat) (message : String)
  | invalidResponse (message : String)
  | codeRejected (message : String)
  | configuration (message : String)
  | emailDelivery (message : String)
  deriving DecidableEq, Repr

namespace ProviderError

def name : ProviderError → String
  | requestFailed _ => "RequestFailed"
  | apiError .. => "ApiError"
  | invalidResponse _ => "InvalidResponse"
  | codeRejected _ => "CodeRejected"
  | configuration _ => "Configuration"
  | emailDelivery _ => "EmailDelivery"

/-- The failure of a name, after an answer has arrived. An unknown name stands for an answer that
cannot be used. -/
def ofName (name : String) (status : Nat) (message : String) : ProviderError :=
  match name with
  | "ApiError" => apiError status message
  | "CodeRejected" => codeRejected message
  | "Configuration" => configuration message
  | "EmailDelivery" => emailDelivery message
  | _ => invalidResponse message

def message : ProviderError → String
  | requestFailed f => "HTTP request failed: " ++ f.message
  | apiError status m => "API error (" ++ toString status ++ "): " ++ m
  | invalidResponse m => "Invalid response: " ++ m
  | codeRejected m => "Authorization code rejected: " ++ m
  | configuration m => "Invalid configuration: " ++ m
  | emailDelivery m => "Email delivery failed: " ++ m

/-- Whether the same request may succeed later. -/
def isTransient : ProviderError → Bool
  | requestFailed f => f = .timeout || f = .connect
  | apiError status _ => 500 ≤ status || status = 429
  | _ => false

def isTimeout : ProviderError → Bool
  | requestFailed f => f = .timeout
  | _ => false

end ProviderError

end Vestibule
