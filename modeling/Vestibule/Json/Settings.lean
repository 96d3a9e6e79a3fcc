import Vestibule.Json.Record

/-! Lenient reading of settings: a member that is absent, or not of the kind that is asked for,
counts as left out. -/

namespace Vestibule.Json

/-- The value of a member, null where there is none. -/
def get (j : Json) (name : String) : Json := (j.member? name).getD .null

def text? (j : Json) (name : String) : Option String := (j.get name).string?

def textOr (j : Json) (name default : String) : String := (j.text? name).getD default

/-- A text that null takes away. -/
def textOrNull (j : Json) (name : String) (default : Option String) : Option String :=
  if (j.member? name).isSome then j.text? name else default

def int? (j : Json) (name : String) : Option Int :=
  (j.get name).intIn? (-9223372036854775808) 18446744073709551615

def intOr (j : Json) (name : String) (default : Int) : Int := (j.int? name).getD default

/-- A number that is not negative; a negative one counts as zero. -/
def natOr (j : Json) (name : String) (default : Nat) : Nat := (j.intOr name default).toNat

def flagOr (j : Json) (name : String) (default : Bool) : Bool := (j.get name).bool?.getD default

/-- A number as the nearest double. -/
def float? (j : Json) (name : String) : Option Float :=
  match j.get name with
  | .number (.int n) => some (Float.ofInt n)
  | .number (.double bits) => some (Float.ofBits bits)
  | _ => none

def instantOr (j : Json) (name : String) (default : Instant) : Instant :=
  (j.get name).instant?.getD default

def uuidOr (j : Json) (name : String) (default : Uuid) : Uuid := (j.get name).uuid?.getD default

def items (j : Json) (name : String) : List Json := (j.get name).array?.getD []

def texts? (j : Json) (name : String) : Option (List String) :=
  (j.get name).array?.map (·.filterMap string?)

end Vestibule.Json
