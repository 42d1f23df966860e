/-!
# Tables

Finite maps. No key of a table has two rows. The rows stand in the order in which their keys
came in; look-ups do not depend on it.
-/

namespace MediaGrid

/-- A finite map from keys to values. -/
structure Table (κ α : Type) where
  /-- The keys with their values. -/
  rows : List (κ × α)
  /-- No key has two rows. -/
  distinct : (rows.map (·.1)).Nodup
  deriving DecidableEq, Repr

namespace Table

variable {κ α : Type} [DecidableEq κ]

/-- The table without rows. -/
def empty : Table κ α := ⟨[], .nil⟩

/-- The value of a key. -/
def find? (table : Table κ α) (key : κ) : Option α :=
  (table.rows.find? (·.1 == key)).map (·.2)

/-- Whether a key has a row. -/
def contains (table : Table κ α) (key : κ) : Bool := table.rows.any (·.1 == key)

/-- The keys that have a row. -/
theorem contains_iff {table : Table κ α} {key : κ} :
    table.contains key = true ↔ key ∈ table.rows.map (·.1) := by
  simp [contains, List.any_eq_true]

/-- Changes the value of one key in a list of rows. -/
def modifyRows (rows : List (κ × α)) (key : κ) (change : α → α) : List (κ × α) :=
  rows.map fun row => if row.1 == key then (row.1, change row.2) else row

/-- A change of a value leaves the keys alone. -/
theorem keys_modifyRows (rows : List (κ × α)) (key : κ) (change : α → α) :
    (modifyRows rows key change).map (·.1) = rows.map (·.1) := by
  rw [modifyRows, List.map_map]
  apply List.map_congr_left
  intro row _
  simp only [Function.comp_apply]
  split <;> rfl

/-- Changes the value of a key, if it has a row. -/
def modify (table : Table κ α) (key : κ) (change : α → α) : Table κ α :=
  ⟨modifyRows table.rows key change, by rw [keys_modifyRows]; exact table.distinct⟩

/-- A key without a row can be added. -/
theorem distinct_append {table : Table κ α} {key : κ} (hk : ¬table.contains key) (value : α) :
    ((table.rows ++ [(key, value)]).map (·.1)).Nodup := by
  rw [contains_iff] at hk
  rw [List.map_append, List.nodup_append]
  refine ⟨table.distinct, by simp, fun a ha b hb => ?_⟩
  rcases List.mem_singleton.mp hb with rfl
  exact fun he => hk (he ▸ ha)

/-- Gives a key a value, in place of the one it has. -/
def insert (table : Table κ α) (key : κ) (value : α) : Table κ α :=
  if hk : table.contains key then table.modify key fun _ => value
  else ⟨table.rows ++ [(key, value)], distinct_append hk value⟩

/-- A new key comes behind the others. -/
theorem rows_insert {table : Table κ α} {key : κ} (hk : ¬table.contains key) (value : α) :
    (table.insert key value).rows = table.rows ++ [(key, value)] := by
  rw [insert, dif_neg hk]

/-- Drops the row of a key. -/
def erase (table : Table κ α) (key : κ) : Table κ α :=
  ⟨table.rows.filter (·.1 != key), table.distinct.sublist (List.filter_sublist.map _)⟩

/-! ## Looking up -/

/-- A key has a row exactly when it has a value. -/
theorem contains_eq_isSome (table : Table κ α) (key : κ) :
    table.contains key = (table.find? key).isSome := by
  rw [contains, find?, Option.isSome_map, List.isSome_find?]

/-- The first row of a key after a change of the value of another, or of the same. -/
theorem find?_modifyRows (rows : List (κ × α)) (key other : κ) (change : α → α) :
    (modifyRows rows key change).find? (·.1 == other) =
      (rows.find? (·.1 == other)).map fun row =>
        if row.1 == key then (row.1, change row.2) else row := by
  rw [modifyRows, List.find?_map]
  congr 2
  funext row
  simp only [Function.comp_apply]
  split <;> rfl

/-- A change concerns the value of its key alone. -/
theorem find?_modify (table : Table κ α) (key other : κ) (change : α → α) :
    (table.modify key change).find? other =
      if other = key then (table.find? other).map change else table.find? other := by
  rw [find?, modify, find?_modifyRows, find?, Option.map_map]
  cases hrow : table.rows.find? (·.1 == other) with
  | none => simp
  | some row =>
    have hkey : row.1 = other := by simpa using List.find?_some hrow
    by_cases h : other = key <;> simp [hkey, h]

/-- An inserted key has the new value, and every other key the one it had. -/
theorem find?_insert (table : Table κ α) (key other : κ) (value : α) :
    (table.insert key value).find? other =
      if other = key then some value else table.find? other := by
  unfold insert
  split
  · rename_i hk
    rw [contains_eq_isSome] at hk
    rw [find?_modify]
    by_cases h : other = key
    · subst h
      obtain ⟨found, hfound⟩ := Option.isSome_iff_exists.mp hk
      simp [hfound]
    · simp [h]
  · rename_i hk
    rw [contains_eq_isSome] at hk
    simp only [find?, List.find?_append, List.find?_singleton]
    by_cases h : other = key
    · subst h
      have hnone : table.find? other = none := by simpa using hk
      simp [Option.map_eq_none_iff.mp hnone]
    · simp [h, Ne.symm h]

/-- A dropped key has no value any more. -/
theorem find?_erase (table : Table κ α) (key other : κ) :
    (table.erase key).find? other = if other = key then none else table.find? other := by
  simp only [find?, erase, List.find?_filter]
  by_cases h : other = key
  · subst h
    simp
  · rw [if_neg h]
    congr 2
    funext row
    by_cases hrow : row.1 = other
    · simp [hrow, h]
    · simp [hrow]

/-- The rows are the pairs of a key with its value. -/
theorem mem_rows_iff {table : Table κ α} {row : κ × α} :
    row ∈ table.rows ↔ table.find? row.1 = some row.2 := by
  obtain ⟨rows, distinct⟩ := table
  simp only [find?]
  induction rows with
  | nil => simp
  | cons head rest ih =>
    obtain ⟨hhead, hrest⟩ := List.nodup_cons.mp distinct
    by_cases h : head.1 = row.1
    · have hnot : row ∉ rest := fun hm =>
        hhead (List.mem_map.mpr ⟨row, hm, h.symm⟩)
      simp only [List.mem_cons, hnot, or_false, List.find?_cons, h, beq_self_eq_true,
        Option.map_some, Option.some.injEq]
      exact ⟨fun he => by rw [he], fun he => Prod.ext h.symm he.symm⟩
    · have hne : row ≠ head := fun he => h (he ▸ rfl)
      simp only [List.mem_cons, hne, false_or, List.find?_cons, beq_eq_false_iff_ne.mpr h]
      exact ih hrest

/-! ## Rows -/

omit [DecidableEq κ] in
/-- No row comes twice. -/
theorem nodup_rows (table : Table κ α) : table.rows.Nodup :=
  List.Pairwise.of_map (·.1) (fun _ _ hne he => hne (he ▸ rfl)) table.distinct

/-- The rows are the row of a key and the rows that are left without it. -/
theorem rows_perm_erase {table : Table κ α} {key : κ} {value : α}
    (h : table.find? key = some value) :
    table.rows.Perm ((key, value) :: (table.erase key).rows) := by
  have hnot : (key, value) ∉ (table.erase key).rows := by
    rw [mem_rows_iff, find?_erase, if_pos rfl]
    exact fun he => by cases he
  refine (List.perm_ext_iff_of_nodup table.nodup_rows
    (List.nodup_cons.mpr ⟨hnot, nodup_rows _⟩)).mpr fun row => ?_
  rw [List.mem_cons, mem_rows_iff, mem_rows_iff, find?_erase]
  by_cases hkey : row.1 = key
  · simp [hkey, h, Prod.ext_iff, eq_comm]
  · simp [hkey, Prod.ext_iff]

/-- A change of a value leaves the rows of the other keys alone. -/
theorem erase_modify (table : Table κ α) (key : κ) (change : α → α) :
    (table.modify key change).erase key = table.erase key := by
  simp only [erase, modify, modifyRows, mk.injEq, List.filter_map]
  rw [List.filter_congr (q := (·.1 != key))]
  · refine (List.map_congr_left fun row hm => ?_).trans (List.map_id _)
    have hne : row.1 ≠ key := by simpa using (List.mem_filter.mp hm).2
    simp [hne]
  · intro row _
    simp only [Function.comp_apply]
    split <;> rfl

end Table

end MediaGrid
