import Vestibule.Encoding.Hex
import Vestibule.Json.Basic
import Vestibule.Json.Double
import Vestibule.Text.Chars

/-! Reads JSON text byte by byte: a character here stands for the byte of its number. Values are
unreadable that nest too deep, strings that are no text, and numbers beyond the doubles; integers
keep their exact value as long as they fit 64 bits. -/

namespace Vestibule.Json

def isSpace (c : Char) : Bool := c = ' ' || c = '\n' || c = '\t' || c = '\r'

def skipSpace (text : List Char) : List Char := text.dropWhile isSpace

def hex4? (text : List Char) : Option (Nat × List Char) :=
  if text.length < 4 then none else (Hex.toNat? (text.take 4)).map fun n => (n, text.drop 4)

/-- What an escape stands for, read after its backslash: a character, or one half of a surrogate
pair. -/
def unescape? : List Char → Option (Nat × List Char)
  | '"' :: rest => some (34, rest)
  | '\\' :: rest => some (92, rest)
  | '/' :: rest => some (47, rest)
  | 'b' :: rest => some (8, rest)
  | 'f' :: rest => some (12, rest)
  | 'n' :: rest => some (10, rest)
  | 'r' :: rest => some (13, rest)
  | 't' :: rest => some (9, rest)
  | 'u' :: rest => hex4? rest
  | _ => none

/-- A piece of a string: a byte, or the number that an escape stands for. -/
inductive StringPiece where
  | byte (value : UInt8)
  | escape (number : Nat)

/-- The pieces of a string up to its closing quote. -/
def stringPieces? : Nat → List Char → Option (List StringPiece × List Char)
  | 0, _ => none
  | _, [] => none
  | fuel + 1, c :: rest =>
    if c = '"' then some ([], rest)
    else if c = '\\' then do
      let (n, rest) ← unescape? rest
      let (pieces, rest) ← stringPieces? fuel rest
      return (.escape n :: pieces, rest)
    else if c.toNat < 32 then none
    else do
      let (pieces, rest) ← stringPieces? fuel rest
      return (.byte (UInt8.ofNat c.toNat) :: pieces, rest)

/-- The bytes of a string. Two escapes that form a surrogate pair are one character, and half a pair
is none. -/
def stringBytes? : List StringPiece → Option (List UInt8)
  | [] => some []
  | .byte b :: pieces => (stringBytes? pieces).map (b :: ·)
  | .escape n :: pieces =>
    if 0xD800 ≤ n ∧ n < 0xDC00 then
      match pieces with
      | .escape low :: pieces =>
        if 0xDC00 ≤ low ∧ low < 0xE000 then
          let c := Char.ofNat (0x10000 + (n - 0xD800) * 0x400 + (low - 0xDC00))
          (stringBytes? pieces).map (String.utf8EncodeChar c ++ ·)
        else none
      | _ => none
    else if 0xDC00 ≤ n ∧ n < 0xE000 then none
    else (stringBytes? pieces).map (String.utf8EncodeChar (Char.ofNat n) ++ ·)

/-- A string behind its opening quote, if the text has one. The string is `none` where it is no
text. -/
def stringRest? (text : List Char) : Option (Option String × List Char) :=
  (stringPieces? (text.length + 1) text).map fun (pieces, rest) =>
    ((stringBytes? pieces).bind Utf8.decode?, rest)

def digitRun (text : List Char) : List Nat × List Char :=
  ((text.takeWhile Text.isAsciiDigit).map fun c => c.toNat - 48, text.dropWhile Text.isAsciiDigit)

/-- A sign and digits, after the letter of an exponent. -/
def exponent? (text : List Char) : Option (Int × List Char) :=
  let (negative, text) := match text with
    | '-' :: rest => (true, rest)
    | '+' :: rest => (false, rest)
    | _ => (false, text)
  match digitRun text with
  | ([], _) => none
  | (ds, rest) =>
    let n : Nat := ds.foldl (fun acc d => acc * 10 + d) 0
    some (if negative then -(n : Int) else n, rest)

def integer (negative : Bool) (ds : List Nat) : Option JsonNumber :=
  let n : Nat := ds.foldl (fun acc d => acc * 10 + d) 0
  if negative then
    if n ≠ 0 ∧ n ≤ Nat.pow 2 63 then some (.int (-n))
    else ((Double.Scaled.integral ds ⟨0, 0⟩).toDouble? true).map .double
  else if n < Nat.pow 2 64 then some (.int n)
  else ((Double.Scaled.integral ds ⟨0, 0⟩).toDouble? false).map .double

def ofNumber? : Option JsonNumber → Json
  | some n => .number n
  | none => .unreadable

def ofString? : Option String → Json
  | some s => .string s
  | none => .unreadable

/-- A number behind its sign. A zero begins no longer integer. -/
def number? (negative : Bool) (text : List Char) : Option (Json × List Char) := do
  let (whole, rest) := digitRun text
  match whole with
  | [] => none
  | 0 :: _ :: _ => none
  | _ => pure ()
  let (places, rest) ← match rest with
    | '.' :: rest =>
      match digitRun rest with
      | ([], _) => none
      | (ds, rest) => some (some ds, rest)
    | _ => some (none, rest)
  let (power, rest) ← match rest with
    | 'e' :: rest | 'E' :: rest => (exponent? rest).map fun (e, rest) => (some e, rest)
    | _ => some (none, rest)
  if places.isNone ∧ power.isNone then return (ofNumber? (integer negative whole), rest)
  else
    let s := Double.Scaled.fractional (places.getD []) (Double.Scaled.integral whole ⟨0, 0⟩)
    let s := { s with exponent := s.exponent + power.getD 0 }
    return (ofNumber? ((s.toDouble? negative).map .double), rest)

/-- The object of these members, all of whose names must be texts. -/
def ofMembers (members : List (Option String × Json)) : Json :=
  match members.mapM fun (name, j) => name.map (·, j) with
  | some members => .object members
  | none => .unreadable

mutual

/-- A value; `depth` more levels of nesting are readable. -/
def value? : Nat → Nat → List Char → Option (Json × List Char)
  | 0, _, _ => none
  | fuel + 1, depth, text =>
    let nested := fun j => if depth ≤ 1 then unreadable else j
    match skipSpace text with
    | [] => none
    | 'n' :: rest => (Text.after? "ull".toList rest).map (.null, ·)
    | 't' :: rest => (Text.after? "rue".toList rest).map (.bool true, ·)
    | 'f' :: rest => (Text.after? "alse".toList rest).map (.bool false, ·)
    | '"' :: rest => (stringRest? rest).map fun (s, rest) => (ofString? s, rest)
    | '-' :: rest => number? true rest
    | '[' :: rest =>
      match skipSpace rest with
      | ']' :: rest => some (nested (.array []), rest)
      | _ => (items? fuel (depth - 1) rest).map fun (xs, rest) => (nested (.array xs), rest)
    | '\x7b' :: rest =>
      match skipSpace rest with
      | '\x7d' :: rest => some (nested (.object []), rest)
      | _ => (members? fuel (depth - 1) rest).map fun (ms, rest) => (nested (ofMembers ms), rest)
    | text => number? false text

/-- One item or more, and the closing bracket. -/
def items? : Nat → Nat → List Char → Option (List Json × List Char)
  | 0, _, _ => none
  | fuel + 1, depth, text => do
    let (j, rest) ← value? fuel depth text
    match skipSpace rest with
    | ',' :: rest =>
      let (xs, rest) ← items? fuel depth rest
      return (j :: xs, rest)
    | ']' :: rest => return ([j], rest)
    | _ => none

/-- One member or more, and the closing brace. -/
def members? : Nat → Nat → List Char → Option (List (Option String × Json) × List Char)
  | 0, _, _ => none
  | fuel + 1, depth, text =>
    match skipSpace text with
    | '"' :: rest => do
      let (name, rest) ← stringRest? rest
      match skipSpace rest with
      | ':' :: rest =>
        let (j, rest) ← value? fuel depth rest
        match skipSpace rest with
        | ',' :: rest =>
          let (ms, rest) ← members? fuel depth rest
          return ((name, j) :: ms, rest)
        | '\x7d' :: rest => return ([(name, j)], rest)
        | _ => none
      | _ => none
    | _ => none

end

/-- Arrays and objects that can be read nest less deep than this. -/
def depthLimit : Nat := 128

/-- The value of a whole text in UTF-8, parts of which may be unreadable. -/
def scan? (bytes : List UInt8) : Option Json := do
  let text := bytes.map fun b => Char.ofNat b.toNat
  let (j, rest) ← value? (2 * text.length + 2) depthLimit text
  if (skipSpace rest).isEmpty then some j else none

def scanText? (text : String) : Option Json := scan? (Utf8.encode text)

/-- The value of a whole text that is readable throughout. -/
def parse? (text : String) : Option Json := (scanText? text).bind readable?

end Vestibule.Json
