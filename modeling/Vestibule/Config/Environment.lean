import Vestibule.Text.Integer

/-! Settings read from environment variables. A number that cannot be read counts as unset. -/

namespace Vestibule

abbrev Environment := String → Option String

namespace Environment

def textOr (env : Environment) (key default : String) : String := (env key).getD default

def nonempty? (env : Environment) (key : String) : Option String :=
  (env key).filter (· ≠ "")

/-- A number below `2 ^ bits`. -/
def natOr (env : Environment) (bits : Nat) (key : String) (default : Nat) : Nat :=
  ((env key).bind fun s => Integer.readUnsigned bits s.toList).getD default

/-- A number in the range of a signed word of `bits` bits. -/
def intOr (env : Environment) (bits : Nat) (key : String) (default : Int) : Int :=
  ((env key).bind fun s => Integer.readSigned bits s.toList).getD default

end Environment

end Vestibule
