import Vestibule.Id.Entity

/-! Failures of the store. -/

namespace Vestibule

inductive StoreError where
  | conflict (entity : EntityKind)
  | notFound (entity : EntityKind)
  | corrupt (entity : EntityKind) (message : String)
  | database (message : String)
  deriving DecidableEq, Repr

namespace StoreError

def name : StoreError → String
  | conflict _ => "Conflict"
  | notFound _ => "NotFound"
  | corrupt .. => "Corrupt"
  | database _ => "Database"

/-- The failure of a name. An unknown name stands for one of the database. -/
def ofName (name : String) (entity : EntityKind) (message : String) : StoreError :=
  match name with
  | "Conflict" => conflict entity
  | "NotFound" => notFound entity
  | "Corrupt" => corrupt entity message
  | _ => database message

def message : StoreError → String
  | conflict e => e.name ++ " already exists"
  | notFound e => e.name ++ " not found"
  | corrupt e m => "corrupt " ++ e.name ++ " row: " ++ m
  | database m => "database error: " ++ m

def isConflict : StoreError → Bool
  | conflict _ => true
  | _ => false

/-- What an audit write fails with while such writes are made to fail. -/
def auditWriteRefused : StoreError := database "injected audit log write failure"

end StoreError

end Vestibule
