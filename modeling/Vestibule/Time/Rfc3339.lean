import Vestibule.Text.Chars
import Vestibule.Time.Instant

/-! The text of instants. Writing is RFC 3339 in UTC with `Z` and the fewest of 0, 3, 6 or 9
fraction digits that lose nothing. Reading is more generous: short fields, blanks around them,
any offset from UTC, and years of any length behind a sign. -/

namespace Vestibule.Rfc3339

/-- A point, then as many digits as the nanoseconds need, in groups of three. -/
def fraction (nanos : Nat) : List Char :=
  if nanos = 0 then []
  else if nanos % 1000000 = 0 then '.' :: Integer.padded 3 (nanos / 1000000)
  else if nanos % 1000 = 0 then '.' :: Integer.padded 6 (nanos / 1000)
  else '.' :: Integer.padded 9 nanos

def write (t : Instant) : List Char :=
  let secondOfDay := (t.seconds % 86400).toNat
  let leap := t.nanos / 1000000000
  t.date.text ++ 'T' :: Integer.padded 2 (secondOfDay / 3600) ++
    ':' :: Integer.padded 2 (secondOfDay / 60 % 60) ++
    ':' :: Integer.padded 2 (secondOfDay % 60 + leap) ++
    fraction (t.nanos % 1000000000) ++ ['Z']

/-- Between one and `most` digits, as a number with what follows them. -/
def digits? (most : Nat) (text : List Char) : Option (Nat × List Char) :=
  let run := (text.takeWhile Text.isAsciiDigit).take most
  if run.isEmpty then none
  else (Integer.digits? run).map fun n => (n, text.drop run.length)

/-- A number behind optional blanks. -/
def field? (most : Nat) (text : List Char) : Option (Nat × List Char) :=
  digits? most (Text.dropBlanks text)

/-- A year: up to four digits, or a sign and any number of digits. -/
def year? (text : List Char) : Option (Int × List Char) :=
  match Text.dropBlanks text with
  | '-' :: rest => (digits? rest.length rest).map fun (n, rest) => (-(n : Int), rest)
  | '+' :: rest => (digits? rest.length rest).map fun (n, rest) => ((n : Int), rest)
  | text => (digits? 4 text).map fun (n, rest) => ((n : Int), rest)

/-- A given character behind optional blanks. -/
def mark? (c : Char) (text : List Char) : Option (List Char) :=
  match Text.dropBlanks text with
  | d :: rest => if d = c then some rest else none
  | [] => none

/-- A point and digits, of which the first nine count; nothing when there is no point. -/
def fraction? (text : List Char) : Option (Nat × List Char) :=
  match text with
  | '.' :: rest =>
    let run := rest.takeWhile Text.isAsciiDigit
    if run.isEmpty then none
    else do
      let kept := run.take 9
      let n ← Integer.digits? kept
      return (n * Nat.pow 10 (9 - kept.length), rest.drop run.length)
  | _ => some (0, text)

/-- Two digits, the first of them at most `top`. -/
def twoDigits? (top : Nat) (text : List Char) : Option (Nat × List Char) :=
  match text with
  | a :: b :: rest => do
    let x ← Integer.digit? a
    let y ← Integer.digit? b
    if x ≤ top then some (x * 10 + y, rest) else none
  | _ => none

/-- An offset from UTC in seconds: `UTC`, `Z`, or a sign with hours and minutes. -/
def offset? (text : List Char) : Option (Int × List Char) :=
  if Text.eqIgnoringCase (text.take 3) "UTC".toList then some (0, text.drop 3)
  else
    match text with
    | 'Z' :: rest | 'z' :: rest => some (0, rest)
    | sign :: rest => do
      let negative ← if sign = '+' then some false
        else if sign = '-' ∨ sign = '−' then some true else none
      let (hours, rest) ← twoDigits? 9 rest
      let rest := rest.dropWhile fun c => c = ':' || Text.isBlank c
      let (minutes, rest) ← twoDigits? 5 rest
      let seconds : Int := hours * 3600 + minutes * 60
      if seconds < 86400 then some (if negative then -seconds else seconds, rest) else none
    | [] => none

/-- The instant of a local day and time at an offset. Second 60 is the leap second of its minute. -/
def instant? (date : Date) (hour minute second nanos : Nat) (offset : Int) : Option Instant :=
  if hour < 24 ∧ minute < 60 ∧ second ≤ 60 then
    let (second, nanos) := if second = 60 then (59, nanos + 1000000000) else (second, nanos)
    Instant.ofUnix? (date.day * 86400 + ↑(hour * 3600 + minute * 60 + second) - offset) nanos
  else none

def dateInRange (year : Int) : Bool := -262143 ≤ year && year ≤ 262142

def read? (text : List Char) : Option Instant := do
  let (year, text) ← year? text
  let text ← mark? '-' text
  let (month, text) ← field? 2 text
  let text ← mark? '-' text
  let (day, text) ← field? 2 text
  let text ← match text with
    | c :: rest => if c = 't' ∨ c = 'T' ∨ c = ' ' then some rest else none
    | [] => none
  let (hour, text) ← field? 2 text
  let text ← mark? ':' text
  let (minute, text) ← field? 2 text
  let text ← mark? ':' text
  let (second, text) ← field? 2 text
  let (nanos, text) ← fraction? text
  let (offset, text) ← offset? (Text.dropBlanks text)
  if ¬ (Text.dropBlanks text).isEmpty ∨ ¬ dateInRange year then none
  let date ← Date.ofCivil? year month day
  instant? date hour minute second nanos offset

/-- Reads `YYYY-MM-DD`, with the same freedom as in instants. -/
def readDate? (text : List Char) : Option Date := do
  let (year, text) ← year? text
  let text ← mark? '-' text
  let (month, text) ← field? 2 text
  let text ← mark? '-' text
  let (day, text) ← field? 2 text
  if ¬ (Text.dropBlanks text).isEmpty ∨ ¬ dateInRange year then none
  Date.ofCivil? year month day

end Vestibule.Rfc3339
