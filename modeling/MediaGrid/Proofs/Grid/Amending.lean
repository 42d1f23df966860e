import MediaGrid.Collection
import MediaGrid.Proofs.Artifact.Amend
import MediaGrid.Proofs.Grid.Asked

/-!
# Edits one after the other

An edit is applied to the rows of the backend and once more to the metadata that the grid has
loaded. On either side two edits of the same artifacts are one edit, by the second update on the
first, and an edit that is made again changes nothing. The grid goes through a list of ids and may
meet an id several times; what it does to the slot of that id is nevertheless one amendment.
-/

namespace MediaGrid

/-! ## The backend -/

namespace Collection

theorem check_changeRecords (collection : Collection) (update : Metadata) (refs : List Artifact)
    (point : FaultPoint) :
    (collection.changeRecords update refs).2.check point = collection.check point := by
  rw [changeRecords]
  cases collection.check .changeRecords <;> rfl

/-- What an edit makes of the rows: nothing if the backend refuses it. -/
theorem rows_changeRecords (collection : Collection) (update : Metadata) (refs : List Artifact) :
    (collection.changeRecords update refs).2.rows =
      match collection.check .changeRecords with
      | .error _ => collection.rows
      | .ok () => collection.rows.map fun row =>
        if row.1 ∈ refs then (row.1, row.2.amend update) else row := by
  rw [changeRecords]
  cases collection.check .changeRecords <;> rfl

/-- Two edits of the same artifacts are one. -/
theorem changeRecords_changeRecords (collection : Collection) (update next : Metadata)
    (refs : List Artifact) :
    ((collection.changeRecords update refs).2.changeRecords next refs).2.rows =
      (collection.changeRecords (update.amend next) refs).2.rows := by
  simp only [rows_changeRecords, check_changeRecords]
  split
  · rfl
  · rw [List.map_map]
    refine List.map_congr_left fun row _ => ?_
    by_cases h : row.1 ∈ refs <;> simp [h, Metadata.amend_assoc]

/-- An edit that is made again leaves the rows alone. -/
theorem changeRecords_again (collection : Collection) (update : Metadata) (refs : List Artifact) :
    ((collection.changeRecords update refs).2.changeRecords update refs).2.rows =
      (collection.changeRecords update refs).2.rows := by
  rw [changeRecords_changeRecords, Metadata.amend_self]

end Collection

/-! ## The grid -/

/-- A slot with its record amended, if it has one. -/
def MetadataSlot.amend (slot : MetadataSlot) (update : Metadata) : MetadataSlot :=
  match slot with
  | .loaded record => .loaded (record.amend update)
  | .pending => .pending
  | .empty => .empty

namespace MetadataSlot

@[simp]
theorem amend_amend (slot : MetadataSlot) (update : Metadata) :
    (slot.amend update).amend update = slot.amend update := by
  cases slot <;> simp [amend]

theorem amend_assoc (slot : MetadataSlot) (update next : Metadata) :
    (slot.amend update).amend next = slot.amend (update.amend next) := by
  cases slot <;> simp [amend, Metadata.amend_assoc]

end MetadataSlot

namespace Grid

/-- Without a record there is nothing to amend. -/
theorem amend_of_not_loaded {grid : Grid} {id : ItemId} {update : Metadata}
    (h : ∀ record, grid.metadata? id ≠ some (.loaded record)) :
    (grid.metadata? id).map (·.amend update) = grid.metadata? id := by
  cases hslot : grid.metadata? id with
  | none => rfl
  | some slot =>
    cases slot with
    | loaded record => exact absurd hslot (h record)
    | _ => rfl

/-- For the first id its slot is amended, whether it has a record or not, and then the others are
gone through. -/
theorem amendRecords_cons (grid : Grid) (update : Metadata) (head : ItemId) (rest : List ItemId) :
    ∃ next : Grid,
      (grid.amendRecords update (head :: rest)).2 = (next.amendRecords update rest).2 ∧
        ∀ id, next.metadata? id =
          if id = head then (grid.metadata? id).map (·.amend update) else grid.metadata? id := by
  rw [amendRecords]
  split
  · rename_i record hloaded
    refine ⟨_, rfl, fun id => ?_⟩
    rw [metadata?_setMetadata]
    split
    · rename_i heq
      rw [heq, hloaded]
      rfl
    · rfl
  · rename_i hnone
    refine ⟨grid, rfl, fun id => ?_⟩
    split
    · rename_i heq
      subst heq
      exact (amend_of_not_loaded hnone).symm
    · rfl

/-- The slot of an id that is given is amended, once however often it is given. -/
theorem metadata?_amendRecords_eq (grid : Grid) (update : Metadata) (ids : List ItemId)
    (id : ItemId) :
    (grid.amendRecords update ids).2.metadata? id =
      if id ∈ ids then (grid.metadata? id).map (·.amend update) else grid.metadata? id := by
  induction ids generalizing grid with
  | nil => rfl
  | cons head rest ih =>
    obtain ⟨next, heq, hnext⟩ := grid.amendRecords_cons update head rest
    rw [heq, ih, hnext]
    by_cases hhead : id = head <;> by_cases hrest : id ∈ rest <;>
      simp [hhead, hrest, Option.map_map, Function.comp_def]

/-- Two edits of the same ids are one. -/
theorem metadata?_amendRecords_amendRecords (grid : Grid) (update next : Metadata)
    (ids : List ItemId) (id : ItemId) :
    ((grid.amendRecords update ids).2.amendRecords next ids).2.metadata? id =
      (grid.amendRecords (update.amend next) ids).2.metadata? id := by
  simp only [metadata?_amendRecords_eq]
  split
  · simp only [Option.map_map, Function.comp_def, MetadataSlot.amend_assoc]
  · rfl

/-- An edit that is made again leaves the metadata alone. -/
theorem metadata?_amendRecords_again (grid : Grid) (update : Metadata) (ids : List ItemId)
    (id : ItemId) :
    ((grid.amendRecords update ids).2.amendRecords update ids).2.metadata? id =
      (grid.amendRecords update ids).2.metadata? id := by
  rw [metadata?_amendRecords_amendRecords, Metadata.amend_self]

end Grid

end MediaGrid
