import Vestibule.Url.Host
import Vestibule.Url.Path

/-! The authority of a URL: a user with a password, a host and a port, of which the host alone has
to be there. Each reader here takes its part from the front of a text. -/

namespace Vestibule.Url

/-- Schemes whose URLs always have a host and a path. -/
def isSpecial (scheme : String) : Bool :=
  ["http", "https", "ws", "wss", "ftp", "file"].contains scheme

def defaultPort? : String → Option Nat
  | "http" | "ws" => some 80
  | "https" | "wss" => some 443
  | "ftp" => some 21
  | _ => none

structure Authority where
  username : String
  password : String
  host : Host
  port : Option Nat

/-- The user, the password and what follows the last at sign. A sign with no user before it must
have a host behind it. -/
def readUser (special : Bool) (text : List Char) :
    Except UrlFault (String × String × List Char) :=
  let encoded := fun (t : List Char) => String.ofList (Percent.encode Percent.userInfo t)
  let region := text.takeWhile (!endsAuthority special ·)
  let signed := (region.reverse.dropWhile (· != '@')).reverse
  let rest := text.drop signed.length
  let user := signed.dropLast
  if !signed.isEmpty && user.isEmpty && rest.head?.any (endsAuthority special) then
    .error .emptyHost
  else
    .ok (encoded (user.takeWhile (· != ':')), encoded ((user.dropWhile (· != ':')).drop 1), rest)

/-- The text of a host and what follows it. Colons in brackets belong to the host. -/
def splitHost (special : Bool) : (inside : Bool) → List Char → List Char × List Char
  | _, [] => ([], [])
  | inside, c :: rest =>
    if endsAuthority special c || (c == ':' && !inside) then ([], c :: rest)
    else
      let (host, after) := splitHost special (c == '[' || (inside && c != ']')) rest
      (c :: host, after)

/-- The port, unless it is the scheme's own, and what follows it. -/
def readPort (scheme : String) (text : List Char) : Except UrlFault (Option Nat × List Char) :=
  let digits := text.takeWhile Text.isAsciiDigit
  let rest := text.drop digits.length
  match Integer.digits? digits with
  | none => .error .port
  | some n =>
    if 65535 < n || rest.head?.any (!endsAuthority true ·) then .error .port
    else if digits.isEmpty || defaultPort? scheme = some n then .ok (none, rest)
    else .ok (some n, rest)

/-- The authority and what follows it. The host of a URL that is not special may be empty where
there is neither a user nor a port. -/
def readAuthority (scheme : String) (text : List Char) :
    Except UrlFault (Authority × List Char) := do
  let special := isSpecial scheme
  let (username, password, address) ← readUser special text
  let (hostText, rest) := splitHost special false address
  let host ← if special then Host.read hostText else Host.readOpaque hostText
  let (port, rest) ←
    match rest with
    | ':' :: rest => if hostText.isEmpty then .error .emptyHost else readPort scheme rest
    | _ => .ok (none, rest)
  if hostText.isEmpty && (username ≠ "" || password ≠ "") then .error .emptyHost
  return (⟨username, password, host, port⟩, rest)

end Vestibule.Url
