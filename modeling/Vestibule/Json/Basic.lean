import Vestibule.Encoding.Utf8

/-! JSON values. Objects keep their members in order, repeated names included. A part of a text that
has the form of a value but denotes none is kept as `unreadable`, since a reader that does not look
at that part need not care. -/

namespace Vestibule

/-- A number: an integer that fits 64 bits, or the bits of a double. -/
inductive JsonNumber where
  | int (value : Int)
  | double (bits : UInt64)
  deriving DecidableEq, Repr

inductive Json where
  | null
  | bool (value : Bool)
  | number (value : JsonNumber)
  | string (value : String)
  | array (items : List Json)
  | object (members : List (String × Json))
  | unreadable
  deriving Inhabited

namespace Json

def int (n : Int) : Json := .number (.int n)

def text (chars : List Char) : Json := .string (String.ofList chars)

/-- The value of an optional field: null when there is none. -/
def ofOption {α : Type} (encode : α → Json) : Option α → Json
  | none => .null
  | some a => encode a

def ofBytes (bytes : List UInt8) : Json :=
  .array (bytes.map fun b => int b.toNat)

mutual

/-- Whether a value is readable throughout. -/
def isReadable : Json → Bool
  | .unreadable => false
  | .array items => areReadable items
  | .object members => haveReadableValues members
  | _ => true

def areReadable : List Json → Bool
  | [] => true
  | j :: items => isReadable j && areReadable items

def haveReadableValues : List (String × Json) → Bool
  | [] => true
  | (_, j) :: members => isReadable j && haveReadableValues members

end

/-- The value itself, if it is readable throughout. -/
def readable? (j : Json) : Option Json := if j.isReadable then some j else none

def string? : Json → Option String
  | .string s => some s
  | _ => none

def bool? : Json → Option Bool
  | .bool b => some b
  | _ => none

def array? : Json → Option (List Json)
  | .array items => some items
  | _ => none

def object? : Json → Option (List (String × Json))
  | .object members => some members
  | _ => none

/-- An integer literal in a range. -/
def intIn? (low high : Int) : Json → Option Int
  | .number (.int n) => if low ≤ n ∧ n ≤ high then some n else none
  | _ => none

def int64? (j : Json) : Option Int64 :=
  (j.intIn? (-9223372036854775808) 9223372036854775807).map Int64.ofInt

def int32? (j : Json) : Option Int32 :=
  (j.intIn? (-2147483648) 2147483647).map Int32.ofInt

def byte? (j : Json) : Option UInt8 :=
  (j.intIn? 0 255).map fun n => UInt8.ofNat n.toNat

def listOf? {α : Type} (decode : Json → Option α) (j : Json) : Option (List α) :=
  j.array?.bind (·.mapM decode)

def bytes? : Json → Option (List UInt8) := listOf? byte?

def strings? : Json → Option (List String) := listOf? string?

/-- Null is the absent value. -/
def optionOf? {α : Type} (decode : Json → Option α) : Json → Option (Option α)
  | .null => some none
  | j => (decode j).map some

/-- The value of the first member of a name. -/
def member? (name : String) : Json → Option Json
  | .object members => members.lookup name
  | _ => none

end Json

end Vestibule
