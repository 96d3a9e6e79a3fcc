import Vestibule.Text.Integer
import Vestibule.Url.Domain.Basic
import Vestibule.Url.Path

/-! Hosts of URLs: domain names and addresses. -/

namespace Vestibule

/-- Why a text is no URL. -/
inductive UrlFault where
  | emptyHost
  | internationalName
  | port
  | ipv4Address
  | ipv6Address
  | domainCharacter
  | relative
  deriving DecidableEq, Repr

def UrlFault.message : UrlFault → String
  | emptyHost => "empty host"
  | internationalName => "invalid international domain name"
  | port => "invalid port number"
  | ipv4Address => "invalid IPv4 address"
  | ipv6Address => "invalid IPv6 address"
  | domainCharacter => "invalid domain character"
  | relative => "relative URL without a base"

inductive Host where
  | domain (name : String)
  | ipv4 (address : Nat)
  | ipv6 (pieces : List Nat)
  deriving DecidableEq, Repr

namespace Host

/-- A number of an address: decimal, octal after a zero, or hexadecimal after `0x`. -/
def ipv4Number? (text : List Char) : Option Nat :=
  let digitsBelow := fun (base : Nat) (body : List Char) =>
    body.foldlM (fun acc c => do
      let d ← Hex.value? c
      if d < base then some (acc * base + d) else none) 0
  match text with
  | [] => none
  | '0' :: 'x' :: body | '0' :: 'X' :: body => digitsBelow 16 body
  | ['0'] => some 0
  | '0' :: body => digitsBelow 8 body
  | body => digitsBelow 10 body

def withoutLastEmpty (parts : List (List Char)) : List (List Char) :=
  if 1 < parts.length ∧ parts.getLast? = some [] then parts.dropLast else parts

/-- Whether the last label is a number, so that the whole must be an address. -/
def endsInNumber (domain : List Char) : Bool :=
  match (withoutLastEmpty (Text.splitAt (· == '.') domain)).getLast? with
  | some last =>
    (!last.isEmpty && last.all Text.isAsciiDigit) || (ipv4Number? last).isSome
  | none => false

/-- Up to four numbers. The last one fills all bytes that are left. -/
def readIpv4? (domain : List Char) : Option Nat := do
  let parts := withoutLastEmpty (Text.splitAt (· == '.') domain)
  if 4 < parts.length then none
  let numbers ← parts.mapM ipv4Number?
  let last ← numbers.getLast?
  let others := numbers.dropLast
  if others.any (255 < ·) ∨ Nat.pow 256 (4 - others.length) ≤ last then none
  return others.foldl (fun acc n => acc * 256 + n) 0 * Nat.pow 256 (4 - others.length) + last

def ipv4Text (address : Nat) : List Char :=
  ['.'].intercalate
    ([24, 16, 8, 0].map fun (shift : Nat) => (toString (address / Nat.pow 2 shift % 256)).toList)

/-- Four decimal numbers without superfluous zeros. -/
def dotted? (text : List Char) : Option (List Nat) := do
  let parts := Text.splitAt (· == '.') text
  if parts.length ≠ 4 then none
  let numbers ← parts.mapM fun part => do
    if part.isEmpty ∨ (1 < part.length ∧ part.head? = some '0') then none
    let n ← Integer.digits? part
    if n < 256 then some n else none
  match numbers with
  | [a, b, c, d] => some [a * 256 + b, c * 256 + d]
  | _ => none

/-- Pieces of 16 bits between colons. Only the last part of an address may be dotted. -/
def pieces? (allowDotted : Bool) (text : List Char) : Option (List Nat) :=
  if text.isEmpty then some []
  else
    let parts := Text.splitAt (· == ':') text
    let piece? := fun (part : List Char) =>
      if part.isEmpty ∨ 4 < part.length then none else Hex.toNat? part
    match parts.getLast? with
    | some last =>
      if allowDotted ∧ last.contains '.' then do
        return (← parts.dropLast.mapM piece?) ++ (← dotted? last)
      else parts.mapM piece?
    | none => none

/-- The texts before and after the first double colon. -/
def splitGap? : List Char → Option (List Char × List Char)
  | ':' :: ':' :: rest => some ([], rest)
  | c :: rest => (splitGap? rest).map fun (before, after) => (c :: before, after)
  | [] => none

/-- Eight pieces, where a double colon stands for as many zeros as are missing, but at least one. -/
def readIpv6? (text : List Char) : Option (List Nat) := do
  match splitGap? text with
  | none =>
    let pieces ← pieces? true text
    if pieces.length = 8 then some pieces else none
  | some (before, after) =>
    let left ← pieces? false before
    let right ← pieces? true after
    let missing := 8 - (left.length + right.length)
    if missing = 0 then none
    else some (left ++ List.replicate missing 0 ++ right)

/-- How many zeros a list begins with. -/
def leadingZeros (pieces : List Nat) : Nat := (pieces.takeWhile (· == 0)).length

/-- The start and length of the first longest run of zeros. -/
def longestZeros (pieces : List Nat) : Nat × Nat :=
  (List.range pieces.length).foldl (fun best i =>
    let run := leadingZeros (pieces.drop i)
    if best.2 < run then (i, run) else best) (0, 0)

def hexText (n : Nat) : List Char := Nat.toDigits 16 n

/-- Pieces without leading zeros. The first longest run of two zeros or more is left out. -/
def ipv6Text (pieces : List Nat) : List Char :=
  let joined := fun (ps : List Nat) => [':'].intercalate (ps.map hexText)
  let (start, length) := longestZeros pieces
  if length < 2 then joined pieces
  else joined (pieces.take start) ++ [':', ':'] ++ joined (pieces.drop (start + length))

def text : Host → List Char
  | domain name => name.toList
  | ipv4 address => ipv4Text address
  | ipv6 pieces => '[' :: ipv6Text pieces ++ [']']

/-- What no domain name in a URL may have: controls, blanks, and what has a meaning in URLs. -/
def forbiddenInDomain (c : Char) : Bool :=
  c.toNat ≤ 0x20 || c.toNat = 0x7F ||
    ['#', '%', '/', ':', '<', '>', '?', '@', '[', '\\', ']', '^', '|'].contains c

/-- The host of a URL whose scheme has hosts of the internet. -/
def read (text : List Char) : Except UrlFault Host :=
  match text with
  | '[' :: rest =>
    if rest.getLast? ≠ some ']' then .error .ipv6Address
    else
      match readIpv6? rest.dropLast with
      | some pieces => .ok (ipv6 pieces)
      | none => .error .ipv6Address
  | _ =>
    let name := (Utf8.decode? (Percent.decode text)).map String.toList
    match name.bind (Domain.toAscii? forbiddenInDomain) with
    | none => .error .internationalName
    | some [] => .error .emptyHost
    | some ascii =>
      if endsInNumber ascii then
        match readIpv4? ascii with
        | some address => .ok (ipv4 address)
        | none => .error .ipv4Address
      else .ok (domain (String.ofList ascii))

def forbiddenInOpaque (c : Char) : Bool :=
  ['\x00', '\t', '\n', '\r', ' ', '#', '/', ':', '<', '>', '?', '@', '[', '\\', ']', '^',
    '|'].contains c

/-- The host of a URL of any other scheme. -/
def readOpaque (text : List Char) : Except UrlFault Host :=
  match text with
  | '[' :: _ => read text
  | _ =>
    if text.any forbiddenInOpaque then .error .domainCharacter
    else .ok (domain (String.ofList (Percent.encode Percent.controls text)))

end Host

end Vestibule
