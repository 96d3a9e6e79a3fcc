import Vestibule.Digest.Sha1
import Vestibule.Http.Conversation
import Vestibule.Provider.Config

/-! The client of the service that knows breached passwords. The service is only told the first five
digits of a password's digest, and answers with all that begin with them. -/

namespace Vestibule.BreachLookup

/-- The digest of a password in upper-case digits. -/
def digits (password : String) : List Char :=
  (Hex.encode (Sha1.digest (Utf8.encode password))).map Text.toAsciiUpper

def sentDigits : Nat := 5

def withoutReturn (line : List Char) : List Char :=
  if line.getLast? = some '\r' then line.dropLast else line

/-- The lines of a text; each ends with a line feed, or a carriage return and one. What follows the
last of them is a line, too, if there is anything. -/
def lines (text : List Char) : List (List Char) :=
  let parts := Text.splitAt (· == '\n') text
  parts.dropLast.map withoutReturn ++ parts.getLast?.toList.filter (· ≠ [])

/-- The digits of an entry and the text of its count. -/
def entryParts? (line : List Char) : Option (List Char × List Char) :=
  match Text.trim line |>.dropWhile (· ≠ ':') with
  | [] => none
  | _ :: count => some ((Text.trim line).takeWhile (· ≠ ':'), count)

/-- Whether a line is an entry for these digits with a count above zero. -/
def isHit (rest : List Char) (line : List Char) : Bool :=
  match entryParts? line with
  | none => false
  | some (candidate, count) =>
    Text.eqIgnoringCase candidate rest &&
      (Integer.readUnsigned 64 (Text.trim count)).any (0 < ·)

/-- Whether an answer lists the rest of a digest. -/
def contains (body rest : List Char) : Bool := (lines body).any (isHit rest)

def rangeRequest (c : BreachLookupConfig) (sent : List Char) :
    Except TransportFault HttpRequest :=
  HttpRequest.build .get
    (ProviderEndpoints.withoutEndSlashes c.baseUrl ++ "/range/" ++ String.ofList sent)
    [("accept", "*/*"), ("add-padding", "true")] []

/-- Whether a password is known to be breached. Without lookups none is. -/
def isBreached (p : RetryPolicy) (c : BreachLookupConfig) (password : String) :
    ProviderConversation Bool := do
  if !c.enabled then return false
  let digits := digits password
  let response ← .retrying p (.fetchSuccess (rangeRequest c (digits.take sentDigits)))
  return contains response.text.toList (digits.drop sentDigits)

end Vestibule.BreachLookup
