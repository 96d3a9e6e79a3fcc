import Vestibule.Store.Table

/-! Look-ups in a table that was written to. Keys stay distinct, so a row is found by its key. -/

namespace Vestibule.Table

variable {α : Type} {key : α → Uuid} {t : Table α key} {id : Uuid} {r x y : α} {q : α → Bool}

theorem mem_of_get? (found : t.get? id = some r) : r ∈ t.rows := List.mem_of_find?_eq_some found

theorem key_of_get? (found : t.get? id = some r) : key r = id := by
  simpa using List.find?_some found

theorem get?_of_mem (member : r ∈ t.rows) : t.get? (key r) = some r := by
  obtain ⟨rows, distinct⟩ := t
  simp only [get?] at *
  induction rows with
  | nil => simp at member
  | cons x rest ih =>
      simp only [List.map_cons, List.nodup_cons, List.mem_map, not_exists, not_and] at distinct
      rcases List.mem_cons.mp member with rfl | inRest
      · simp
      · have apart : key x ≠ key r := fun same => distinct.1 r inRest same.symm
        rw [List.find?_cons_of_neg (by simpa using apart)]
        exact ih distinct.2 inRest

theorem get?_eq_some_iff : t.get? id = some r ↔ r ∈ t.rows ∧ key r = id :=
  ⟨fun found => ⟨mem_of_get? found, key_of_get? found⟩,
    fun ⟨member, keyed⟩ => keyed ▸ get?_of_mem member⟩

theorem rows_replace : (t.replace r).rows = t.rows.map fun x => if key x = key r then r else x :=
  rfl

theorem get?_replace : (t.replace r).get? id =
    if key r = id then (t.get? id).map fun _ => r else t.get? id := by
  simp only [get?, rows_replace]
  induction t.rows with
  | nil => simp
  | cons x rest ih =>
      by_cases own : key x = key r <;> by_cases sought : key r = id <;>
        by_cases here : key x = id <;> simp_all

theorem get?_replace_self (present : t.get? (key r) = some x) :
    (t.replace r).get? (key r) = some r := by
  simp [get?_replace, present]

theorem get?_replace_of_ne (apart : key r ≠ id) : (t.replace r).get? id = t.get? id := by
  simp [get?_replace, apart]

theorem rows_add (absent : t.contains (key r) = false) : (t.add r).rows = t.rows ++ [r] := by
  simp [add, absent]

/-- A row that is added hides none. -/
theorem get?_add_of_some (found : t.get? id = some x) (absent : t.contains (key r) = false) :
    (t.add r).get? id = some x := by
  obtain ⟨listed, keyed⟩ := get?_eq_some_iff.mp found
  refine get?_eq_some_iff.mpr ⟨?_, keyed⟩
  rw [rows_add absent]
  exact List.mem_append_left _ listed

theorem contains_of_get? (found : t.get? id = some r) : t.contains id = true := by
  obtain ⟨listed, keyed⟩ := get?_eq_some_iff.mp found
  exact List.any_eq_true.mpr ⟨r, listed, by simpa using keyed⟩

theorem get?_add (absent : t.contains (key r) = false) :
    (t.add r).get? id = if key r = id then some r else t.get? id := by
  split
  · rename_i own
    subst own
    refine get?_of_mem ?_
    rw [rows_add absent]
    exact List.mem_append_right _ (List.mem_singleton_self r)
  · rename_i apart
    simp [get?, rows_add absent, apart]

theorem eq_of_rows {t' : Table α key} (same : t.rows = t'.rows) : t = t' := by
  cases t
  cases t'
  cases same
  rfl

theorem eq_of_key (stored : t.get? id = some x) (listed : y ∈ t.rows) (own : key y = id) :
    y = x := by
  rw [← own, get?_of_mem listed] at stored
  exact Option.some.inj stored

/-- What is not asked for, neither as it was nor as it is now, may be replaced. -/
theorem filter_replace (stored : t.get? (key r) = some x) (was : q x = false) (now : q r = false) :
    (t.replace r).rows.filter q = t.rows.filter q := by
  have each : ∀ y ∈ t.rows, key y = key r → q y = false :=
    fun y listed own => eq_of_key stored listed own ▸ was
  rw [rows_replace]
  generalize t.rows = rows at each
  induction rows with
  | nil => rfl
  | cons y rest ih =>
      have onward := ih fun z listed => each z (List.mem_cons_of_mem _ listed)
      by_cases own : key y = key r
      · simp [own, now, each y List.mem_cons_self own, onward]
      · simp [own, onward, List.filter_cons]

theorem find?_replace (stored : t.get? (key r) = some x) (was : q x = false) (now : q r = false) :
    (t.replace r).rows.find? q = t.rows.find? q := by
  rw [← List.head?_filter, filter_replace stored was now, List.head?_filter]

theorem any_replace (stored : t.get? (key r) = some x) (same : q r = q x) :
    (t.replace r).rows.any q = t.rows.any q := by
  rw [rows_replace, List.any_map, Bool.eq_iff_iff, List.any_eq_true, List.any_eq_true]
  refine exists_congr fun y => and_congr_right fun listed => ?_
  simp only [Function.comp_apply]
  split
  · rename_i own
    rw [same, eq_of_key stored listed own]
  · rfl

theorem contains_replace : (t.replace r).contains id = t.contains id := by
  have keys : (t.replace r).rows.map key = t.rows.map key := map_key_overwrite t.rows r
  have sought := congrArg (List.any · (· == id)) keys
  simpa only [contains, List.any_map, Function.comp_def] using sought

/-- Rows of different keys are written in any order. -/
theorem replace_comm {r' : α} (apart : key r ≠ key r') :
    (t.replace r).replace r' = (t.replace r').replace r := by
  apply eq_of_rows
  simp only [rows_replace, List.map_map]
  apply List.map_congr_left
  intro y _
  by_cases own : key y = key r <;> by_cases own' : key y = key r' <;> simp_all

theorem add_replace {r' : α} (fresh : t.contains (key r') = false) (apart : key r' ≠ key r) :
    (t.add r').replace r = (t.replace r).add r' := by
  apply eq_of_rows
  rw [rows_add (contains_replace.trans fresh), rows_replace, rows_add fresh, rows_replace]
  simp [apart]

end Vestibule.Table
