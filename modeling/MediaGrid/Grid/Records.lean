import MediaGrid.Grid.Basic

/-!
# Loading metadata

Metadata that is not loaded is claimed before it is asked for. Records that arrive are
stored where metadata is being asked for, and claimed entries without a record go back to
having none. An update can be applied to loaded metadata.
-/

namespace MediaGrid.Grid

/-- The metadata slot of an id. -/
def metadata? (grid : Grid) (id : ItemId) : Option MetadataSlot :=
  (grid.find? id).map (·.metadata)

/-- Puts a slot in place of the metadata slot of an id. -/
def setMetadata (grid : Grid) (id : ItemId) (slot : MetadataSlot) : Grid :=
  grid.modify id fun entry => { entry with metadata := slot }

/-- Claims the metadata of the entries that have none, and returns them with their artifacts. -/
def claimRecords (grid : Grid) : List ItemId → List (ItemId × Artifact) × Grid
  | [] => ([], grid)
  | id :: rest =>
    match grid.find? id with
    | none => grid.claimRecords rest
    | some entry =>
      if entry.metadata = .empty then
        let (claimed, grid) := (grid.setMetadata id .pending).claimRecords rest
        ((id, entry.ref) :: claimed, grid)
      else grid.claimRecords rest

/-- Gives up the metadata of the given ids where it is being asked for. -/
def giveUpRecords (grid : Grid) (ids : List ItemId) : Grid :=
  ids.foldl
    (fun grid id => if grid.metadata? id = some .pending then grid.setMetadata id .empty else grid)
    grid

/-- Stores records where metadata is being asked for, and returns the ids that got one. -/
def storeRecords (grid : Grid) : List (Artifact × Metadata) → List ItemId × Grid
  | [] => ([], grid)
  | (ref, record) :: rest =>
    if grid.metadata? ref.id = some .pending then
      let (stored, grid) := (grid.setMetadata ref.id (.loaded record)).storeRecords rest
      (ref.id :: stored, grid)
    else grid.storeRecords rest

/-- Stores the records of a claim, gives up what is left of it, and returns the ids that got a
record. -/
def settleRecords (grid : Grid) (claimed : List ItemId)
    (records : List (Artifact × Metadata)) : List ItemId × Grid :=
  let (stored, grid) := grid.storeRecords records
  (stored, grid.giveUpRecords claimed)

/-- Applies an update to the loaded metadata of the given ids, and returns those that had any. -/
def amendRecords (grid : Grid) (update : Metadata) : List ItemId → List ItemId × Grid
  | [] => ([], grid)
  | id :: rest =>
    match grid.metadata? id with
    | some (.loaded record) =>
      let (amended, grid) :=
        (grid.setMetadata id (.loaded (record.amend update))).amendRecords update rest
      (id :: amended, grid)
    | _ => grid.amendRecords update rest

end MediaGrid.Grid
