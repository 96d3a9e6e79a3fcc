import Vestibule.Mail.Message
import Vestibule.Provider.Error
import Vestibule.Text.Letter
import Vestibule.Url.Host

/-! Mailboxes in the headers of mail: an address, bare or in angle brackets behind a name. -/

namespace Vestibule

structure Mailbox where
  name : Option String
  user : String
  domain : String
  deriving DecidableEq, Repr

/-- Why a text is no mailbox. -/
inductive MailboxFault where
  | form
  | user
  | domain
  deriving DecidableEq, Repr

def MailboxFault.message : MailboxFault → String
  | form => "Invalid input"
  | user => "Invalid email user"
  | domain => "Invalid email domain"

namespace Mailbox

def isAtomChar (c : Char) : Bool :=
  Text.isAsciiLetter c || Text.isAsciiDigit c || 128 ≤ c.toNat ||
    ['!', '#', '$', '%', '&', '\'', '*', '+', '-', '/', '=', '?', '^', '_', Char.ofNat 0x60, '\x7b',
      '|', '\x7d', '~'].contains c

def isSpace (c : Char) : Bool := c == ' ' || c == '\t'

def atom? (text : List Char) : Option (List Char × List Char) :=
  match text.takeWhile isAtomChar with
  | [] => none
  | a => some (a, text.dropWhile isAtomChar)

/-- Atoms with single dots between them. -/
def dotAtom? (text : List Char) : Option (List Char × List Char) := do
  let (first, rest) ← atom? text
  let rec more : Nat → List Char → List Char → List Char × List Char
    | 0, done, rest => (done, rest)
    | fuel + 1, done, rest =>
      match rest with
      | '.' :: after =>
        match atom? after with
        | some (a, after) => more fuel (done ++ '.' :: a) after
        | none => (done, rest)
      | _ => (done, rest)
  return more rest.length first rest

/-- Nulls and line breaks are never part of a mailbox. -/
def isQuotable (c : Char) : Bool := c.toNat ≠ 0 && c.toNat ≠ 10 && c.toNat ≠ 13

/-- A character between quotes. A backslash takes the next ASCII character as it is. -/
def quotedChar? : List Char → Option (Char × List Char)
  | '\\' :: c :: rest => if isQuotable c && c.toNat < 128 then some (c, rest) else none
  | c :: rest =>
    if isQuotable c && !isSpace c && c != '"' && c != '\\' then some (c, rest) else none
  | [] => none

/-- What stands before the closing quote, without blanks at its end. Of the spaces between two
characters only the first counts. -/
def quotedRest? : Nat → List Char → Option (List Char × List Char)
  | 0, _ => none
  | fuel + 1, text =>
    let rest := text.dropWhile isSpace
    match quotedChar? rest with
    | some (c, rest) => do
      let (body, rest) ← quotedRest? fuel rest
      return ((text.takeWhile isSpace).take 1 ++ c :: body, rest)
    | none =>
      match Text.dropBlanks rest with
      | '"' :: rest => some ([], rest)
      | _ => none

def quoted? : List Char → Option (List Char × List Char)
  | '"' :: rest => quotedRest? (rest.length + 1) rest
  | _ => none

/-- A word of a name, an atom possibly after spaces. -/
def word? (text : List Char) : Option (List Char × List Char) :=
  (quoted? text).orElse fun _ => do
    let (a, rest) ← atom? (text.dropWhile isSpace)
    return (text.takeWhile isSpace |>.take 1 |>.append a, rest)

/-- The words and dots of a name. -/
def nameRest : Nat → List Char → List Char → List Char × List Char
  | 0, done, rest => (done, rest)
  | fuel + 1, done, rest =>
    match word? rest, rest with
    | some (w, rest), _ => nameRest fuel (done ++ w) rest
    | none, '.' :: rest => nameRest fuel (done ++ ['.']) rest
    | none, _ => (done, rest)

/-- A user and a domain around a commercial at. -/
def address? (text : List Char) : Option ((List Char × List Char) × List Char) := do
  let (user, rest) ← (dotAtom? text).orElse fun _ => quoted? text
  match rest with
  | '@' :: rest =>
    let (domain, rest) ← dotAtom? rest
    return ((user, domain), rest)
  | _ => none

def bracketed? (text : List Char) : Option ((List Char × List Char) × List Char) := do
  match Text.dropBlanks text with
  | '<' :: rest =>
    let (a, rest) ← address? rest
    match rest with
    | '>' :: rest => return (a, rest)
    | _ => none
  | _ => none

/-- A bracketed address behind a name. -/
def named? (text : List Char) :
    Option (Option (List Char) × (List Char × List Char) × List Char) :=
  match word? text with
  | some (w, rest) => do
    let (name, rest) := nameRest rest.length w rest
    return (some name, ← bracketed? rest)
  | none => (bracketed? text).map (none, ·)

def parts? (text : List Char) : Option (Option (List Char) × List Char × List Char) := do
  let text := Text.trim text
  let (name, (user, domain), rest) ←
    (named? text).orElse fun _ => (address? text).map (none, ·)
  if rest.isEmpty then return (name, user, domain) else none

def byteCount (text : List Char) : Nat := (text.flatMap String.utf8EncodeChar).length

/-- What may stand between the quotes of a user that is quoted twice. -/
def isQuotedUser : List Char → Bool
  | [] => true
  | '\\' :: c :: rest => '!' ≤ c && c ≤ '~' && isQuotedUser rest
  | c :: rest =>
    (isSpace c || ('!' ≤ c && c ≤ '~' && c != '"' && c != '\\') || 128 ≤ c.toNat) &&
      isQuotedUser rest

def isUser (text : List Char) : Bool :=
  byteCount text ≤ 64 &&
    if text.head? = some '"' && text.getLast? = some '"' then
      2 < text.length && isQuotedUser (text.drop 1).dropLast
    else (Text.splitAt (· == '.') text).all fun a => !a.isEmpty && a.all isAtomChar

/-- A label begins and ends with a letter or a digit. -/
def isLabel (label : List Char) : Bool :=
  byteCount label ≤ 63 && label.head?.any Text.isLetterOrDigit &&
    label.getLast?.any Text.isLetterOrDigit && label.all isAtomChar

/-- Anything visible in brackets but brackets and backslashes. -/
def isLiteral (text : List Char) : Bool :=
  text.head? = some '[' && text.getLast? = some ']' &&
    (text.drop 1).dropLast.all fun c =>
      ('!' ≤ c && c ≤ 'Z') || ('^' ≤ c && c ≤ '~') || 128 ≤ c.toNat

/-- A domain of the internet as it is written: labels, a literal, or an address. -/
def isPlainDomain (text : List Char) : Bool :=
  (byteCount text ≤ 254 && (isLiteral text || (Text.splitAt (· == '.') text).all isLabel)) ||
    (Host.readIpv6? text).isSome

/-- A domain may count as it is written or in ASCII. -/
def isDomain (text : List Char) : Bool :=
  isPlainDomain text || (Domain.toAscii? (fun _ => false) text).any isPlainDomain

def read (text : String) : Except MailboxFault Mailbox :=
  match parts? text.toList with
  | none => .error .form
  | some (name, user, domain) =>
    if !isUser user then .error .user
    else if !isDomain domain then .error .domain
    else .ok ⟨name.map String.ofList, String.ofList user, String.ofList domain⟩

end Mailbox

/-- The mailboxes that a message goes from and to. A bad sender is a fault of the configuration, a
bad recipient one of the delivery. -/
def EmailMessage.envelope (m : EmailMessage) : Except ProviderError (Mailbox × Mailbox) :=
  match Mailbox.read m.sender with
  | .error e => .error (.configuration ("Invalid from address: " ++ e.message))
  | .ok sender =>
    match Mailbox.read m.recipient with
    | .error e => .error (.emailDelivery ("Invalid recipient: " ++ e.message))
    | .ok recipient => .ok (sender, recipient)

end Vestibule
