import Vestibule.Http.Charset
import Vestibule.Provider.Error
import Vestibule.Url.Basic

/-! Requests to servers and their answers. -/

namespace Vestibule

inductive HttpMethod where
  | get
  | post
  deriving DecidableEq, Repr

structure HttpRequest where
  method : HttpMethod
  url : Url
  headers : List (String × String)
  body : List UInt8
  deriving DecidableEq, Repr

structure HttpResponse where
  status : Nat
  headers : List (String × String)
  body : List UInt8
  /-- The body as text where the content type names an encoding that is known, but none of Unicode.
  Their tables are the HTTP library's. -/
  foreignText : Option String := none
  deriving DecidableEq, Repr

namespace HttpRequest

/-- Whether a header may have this value: no control characters but tabs. -/
def isHeaderValue (value : String) : Bool :=
  value.toList.all fun c => c == '\t' || (0x20 ≤ c.toNat && c.toNat ≠ 0x7F)

/-- A request, unless its URL is none of the web or a header has no allowed value. -/
def build (method : HttpMethod) (url : String) (headers : List (String × String))
    (body : List UInt8) : Except TransportFault HttpRequest :=
  match Url.read url with
  | .error _ => .error .badRequest
  | .ok u =>
    if u.scheme ≠ "http" ∧ u.scheme ≠ "https" then .error .badRequest
    else if headers.all fun h => isHeaderValue h.2 then .ok ⟨method, u, headers, body⟩
    else .error .badRequest

/-- The request that a redirection leads to, if it leads to one. Only 307 and 308 repeat the method
and the body. Another host does not get the credentials. -/
def redirected? (r : HttpRequest) (status : Nat) (location : String) : Option HttpRequest := do
  if ¬ [301, 302, 303, 307, 308].contains status then none
  let url ← (r.url.join location).toOption
  if url.scheme ≠ "http" ∧ url.scheme ≠ "https" then none
  let sameHost := url.host == r.url.host && url.port == r.url.port
  let headers := r.headers.filter fun h => sameHost || h.1 ≠ "authorization"
  if status = 307 ∨ status = 308 then return { r with url := url, headers := headers }
  return {
    method := .get
    url := url
    headers := headers.filter fun h => h.1 ≠ "content-type"
    body := [] }

end HttpRequest

namespace HttpResponse

/-- The value of a header; names are in lower case. -/
def header? (r : HttpResponse) (name : String) : Option String := r.headers.lookup name

def isSuccess (r : HttpResponse) : Bool := 200 ≤ r.status && r.status < 300

/-- The body as text, without a byte order mark. The mark comes before what the content type names,
and an unknown name counts as none. -/
def text (r : HttpResponse) : String :=
  match Charset.marked? r.body with
  | some (charset, rest) => charset.decode rest
  | none =>
    match (r.header? "content-type").bind MediaType.charset? with
    | none => Charset.utf8.decode r.body
    | some label =>
      match Charset.ofLabel? label with
      | some charset => charset.decode r.body
      | none => r.foreignText.getD (Charset.utf8.decode r.body)

end HttpResponse

end Vestibule
