import Vestibule.Id.Uuid

/-! Tables: rows in the order they were added, at most one for each key. -/

namespace Vestibule

structure Table (α : Type) (key : α → Uuid) where
  rows : List α := []
  distinct : (rows.map key).Nodup := by simp

namespace Table

variable {α : Type} {key : α → Uuid}

instance : Inhabited (Table α key) := ⟨{}⟩

def get? (t : Table α key) (id : Uuid) : Option α := t.rows.find? fun r => key r == id

def contains (t : Table α key) (id : Uuid) : Bool := t.rows.any fun r => key r == id

/-- The rows with `r` in place of the one of its key. -/
def overwrite (key : α → Uuid) (rows : List α) (r : α) : List α :=
  rows.map fun x => if key x = key r then r else x

theorem map_key_overwrite (rows : List α) (r : α) :
    (overwrite key rows r).map key = rows.map key := by
  simp only [overwrite, List.map_map]
  apply List.map_congr_left
  intro x _
  by_cases h : key x = key r <;> simp [h]

/-- Puts `r` in place of the row of its key. Without such a row nothing changes. -/
def replace (t : Table α key) (r : α) : Table α key where
  rows := overwrite key t.rows r
  distinct := by rw [map_key_overwrite]; exact t.distinct

/-- Adds `r` at the end, unless there is a row of its key. -/
def add (t : Table α key) (r : α) : Table α key :=
  if h : t.contains (key r) then t
  else
    { rows := t.rows ++ [r]
      distinct := by
        simp only [contains, List.any_eq_true, beq_iff_eq, not_exists, not_and] at h
        simp only [List.map_append, List.map_cons, List.map_nil, List.nodup_append,
          List.nodup_cons, List.not_mem_nil, not_false_eq_true, List.nodup_nil, and_self,
          List.mem_map, List.mem_cons, or_false, true_and]
        refine ⟨t.distinct, ?_⟩
        rintro a ⟨x, hx, rfl⟩ b rfl
        exact h x hx }

/-- Puts `r` in place of the row of its key, or adds it. -/
def put (t : Table α key) (r : α) : Table α key :=
  if t.contains (key r) then t.replace r else t.add r

end Table

end Vestibule
