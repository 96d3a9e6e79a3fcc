import Vestibule.Encoding.Hex
import Vestibule.Text.Chars

/-! Tables of characters by their code points. A row is written as `first-last:value.value` in base
16; it has no last for one character, and it need not have values. What values mean is for each table
to say. -/

namespace Vestibule

structure CodeRow where
  first : Nat
  last : Nat
  values : List Nat
  deriving DecidableEq, Repr

abbrev CodeTable := List CodeRow

namespace CodeRow

def covers (r : CodeRow) (c : Char) : Bool := r.first ≤ c.toNat && c.toNat ≤ r.last

def read? (text : List Char) : Option CodeRow := do
  let codes ← (Text.splitAt (· == '-') (text.takeWhile (· != ':'))).mapM Hex.toNat?
  let values ←
    match text.dropWhile (· != ':') with
    | [] => some []
    | _ :: values => (Text.splitAt (· == '.') values).mapM Hex.toNat?
  match codes with
  | [first] => return ⟨first, first, values⟩
  | [first, last] => return ⟨first, last, values⟩
  | _ => none

end CodeRow

namespace CodeTable

/-- The rows of a table. One blank parts the rows of a line. -/
def read (lines : List String) : CodeTable :=
  lines.flatMap fun line => (Text.splitAt Text.isBlank line.toList).filterMap CodeRow.read?

def row? (table : CodeTable) (c : Char) : Option CodeRow := table.find? (·.covers c)

def hasChar (table : CodeTable) (c : Char) : Bool := table.any (·.covers c)

/-- The first value of a character. -/
def value? (table : CodeTable) (c : Char) : Option Nat := do (← table.row? c).values.head?

end CodeTable

end Vestibule
