import MediaGrid.Proofs.Grid.Consistency

/-!
# Selecting and deselecting

What selecting does to the entries and to the rest of the grid: the flag of the given ids is set,
and nothing else changes but the count. The selection is what archiving takes and deselects, so once
its ids are deselected no entry is selected.
-/

namespace MediaGrid.Grid

variable {grid : Grid} {ids : List ItemId} {id : ItemId}

/-- The flag of the given ids is set, and every other entry is left alone. -/
theorem find?_flag (value : Bool) : (grid.flag value ids).2.find? id =
    (grid.find? id).map fun entry =>
      if id ∈ ids then { entry with selected := value } else entry := by
  induction ids generalizing grid with
  | nil => simp [flag]
  | cons head rest ih =>
    rw [flag]
    cases hentry : grid.find? head with
    | none =>
      rw [ih]
      by_cases hid : id = head
      · rw [hid, hentry]
        rfl
      · simp only [List.mem_cons, hid, false_or]
    | some entry =>
      dsimp only
      split
      · rename_i hvalue
        rw [ih]
        by_cases hid : id = head
        · rw [hid, hentry, ← hvalue]
          simp
        · simp only [List.mem_cons, hid, false_or]
      · rw [ih, find?, modify, Table.find?_modify, ← find?]
        by_cases hid : id = head
        · rw [if_pos hid, hid, hentry]
          simp
        · simp only [List.mem_cons, hid, false_or, if_false]

/-- The look-up after selecting and deselecting is that after setting the flags. -/
theorem find?_mark (ids : Option (List ItemId)) (value : Bool) :
    (grid.mark ids value).2.find? id = (grid.find? id).map fun entry =>
      if id ∈ ids.getD grid.ids then { entry with selected := value } else entry := by
  rw [← find?_flag]
  unfold mark
  dsimp only
  split <;> rfl

/-- Whether an id has an entry that is selected. -/
def isSelected (grid : Grid) (id : ItemId) : Bool := (grid.find? id).any (·.selected)

/-- The selection is taken in view order. -/
theorem ids_selected (grid : Grid) :
    grid.selected.map (·.1) = grid.ids.filter grid.isSelected := by
  unfold selected inOrder
  induction grid.ids with
  | nil => rfl
  | cons id rest ih =>
    cases hentry : grid.find? id with
    | none => simpa [isSelected, hentry] using ih
    | some entry => cases hselected : entry.selected <;> simp [isSelected, hentry, hselected, ih]

/-- What is taken with an id of the selection is its entry. -/
theorem find?_of_mem_selected {row : ItemId × Entry} (h : row ∈ grid.selected) :
    grid.find? row.1 = some row.2 := by
  obtain ⟨key, -, hrow⟩ := List.mem_filterMap.mp (List.mem_filter.mp h).1
  obtain ⟨entry, hentry, rfl⟩ := Option.map_eq_some_iff.mp hrow
  exact hentry

/-- The ids of the selection are those in view whose entry is selected. -/
theorem mem_selected : id ∈ grid.selected.map (·.1) ↔
    id ∈ grid.ids ∧ ∃ entry, grid.find? id = some entry ∧ entry.selected = true := by
  rw [ids_selected, List.mem_filter, isSelected, Option.any_eq_true]

/-- As many entries are counted as are selected in view. -/
theorem Consistent.selectionCount_eq (hc : grid.Consistent) :
    grid.selectionCount = (grid.ids.filter grid.isSelected).length := by
  have hshown : grid.ids.Perm (grid.entries.rows.map (·.1)) :=
    (List.perm_ext_iff_of_nodup hc.nodup_ids grid.entries.distinct).mpr fun id => by
      rw [hc.mem_ids, contains, Table.contains_iff]
  rw [hc.count_eq, countSelected, (hshown.filter _).length_eq, List.filter_map, List.length_map]
  refine congrArg List.length (List.filter_congr fun row hrow => ?_)
  rw [Function.comp_apply, isSelected, find?, Table.mem_rows_iff.mp hrow]
  rfl

/-- Where the selection is deselected, no entry is selected any more. -/
theorem deselect_selected (hc : grid.Consistent) :
    let after := (grid.mark (some (grid.selected.map (·.1))) false).2
    (∀ id, after.find? id = (grid.find? id).map Entry.withoutMark) ∧ after.selectionCount = 0 := by
  intro after
  have hfind : ∀ id, after.find? id = (grid.find? id).map Entry.withoutMark := by
    intro id
    rw [find?_mark, Option.getD_some]
    cases hentry : grid.find? id with
    | none => rfl
    | some entry =>
      rw [Option.map_some, Option.map_some]
      split
      · rfl
      · rename_i hout
        have hshown := (hc.mem_ids id).mpr (contains_iff.mpr ⟨entry, hentry⟩)
        have hselected : entry.selected = false := Bool.eq_false_iff.mpr fun hselected =>
          hout (mem_selected.mpr ⟨hshown, entry, hentry, hselected⟩)
        rw [Entry.withoutMark, ← hselected]
  refine ⟨hfind, ?_⟩
  rw [(consistent_mark hc _ false).count_eq, countSelected, List.length_eq_zero_iff,
    List.filter_eq_nil_iff]
  intro row hrow hselected
  have hfound := (hfind row.1).symm.trans (Table.mem_rows_iff.mp hrow)
  obtain ⟨entry, -, hentry⟩ := Option.map_eq_some_iff.mp hfound
  rw [← hentry] at hselected
  cases hselected

end MediaGrid.Grid
