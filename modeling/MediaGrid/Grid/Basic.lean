import MediaGrid.Exchange
import MediaGrid.Grid.Entry
import MediaGrid.Search.Menu
import MediaGrid.Table

/-!
# The state of the grid

The entries and their order in the view, the query they come from, the selection, the states
of the four requests, the search text with its menu and completions, and the edit dialog. The
epoch counts how often the view was cleared or a query was begun; what was begun in an earlier
epoch is recognised by it. Entries are looked up by id; their order and the count of the
selection are kept apart from them, and every operation that adds, drops or selects entries
brings both up to date. This module holds the state, the look-up of entries, and the
operations that add and drop them. Operations that drop loaded contents return the handles.
-/

namespace MediaGrid

/-- The query the view comes from. -/
structure PagedQuery where
  /-- The queries of which an artifact has to meet one. -/
  queries : List Query
  /-- The last page merged into the view. -/
  page : Nat
  /-- Whether pages remain. -/
  hasMore : Bool
  /-- The highest page asked for, merged or not. -/
  requested : Nat
  deriving DecidableEq, Repr

/-- The states of the four requests. -/
structure Requests where
  /-- The query. -/
  query : RequestStatus
  /-- Archiving the selection. -/
  download : RequestStatus
  /-- Deleting the selection. -/
  delete : RequestStatus
  /-- Editing the metadata of the selection. -/
  metadataEdit : RequestStatus
  deriving DecidableEq, Repr

namespace Requests

/-- Nothing was asked for yet. -/
def idle : Requests := ⟨.idle, .idle, .idle, .idle⟩

/-- The state of one request. -/
def get (states : Requests) : Request → RequestStatus
  | .query => states.query
  | .download => states.download
  | .delete => states.delete
  | .metadataEdit => states.metadataEdit

/-- The states with that of one request replaced. -/
def set (states : Requests) (kind : Request) (state : RequestStatus) : Requests :=
  match kind with
  | .query => { states with query := state }
  | .download => { states with download := state }
  | .delete => { states with delete := state }
  | .metadataEdit => { states with metadataEdit := state }

end Requests

/-- The state of the grid. -/
structure Grid where
  /-- The entries, each under its id. -/
  entries : Table ItemId Entry
  /-- The ids of the entries in view order. -/
  ids : List ItemId
  /-- The query the view comes from, if there is one. -/
  active : Option PagedQuery
  /-- How many entries are selected. -/
  selectionCount : Nat
  /-- The states of the requests. -/
  requests : Requests
  /-- The search text. -/
  search : String
  /-- The menu that goes with it. -/
  menu : Menu
  /-- Its completions. -/
  completions : List String
  /-- Whether the edit dialog is open. -/
  dialogOpen : Bool
  /-- How often the view was cleared or a query begun. -/
  epoch : Nat
  /-- The last ticket that was given to a claim. -/
  lastTicket : Nat
  deriving DecidableEq

namespace Grid

/-- The grid before anything happened. -/
def empty : Grid where
  entries := .empty
  ids := []
  active := none
  selectionCount := 0
  requests := .idle
  search := ""
  menu := .closed
  completions := []
  dialogOpen := false
  epoch := 0
  lastTicket := 0

/-! ## Looking up and changing entries -/

/-- The entry of an id. -/
def find? (grid : Grid) (id : ItemId) : Option Entry := grid.entries.find? id

/-- Whether the grid has an entry of an id. -/
def contains (grid : Grid) (id : ItemId) : Bool := grid.entries.contains id

/-- Changes the entry of an id, if there is one. -/
def modify (grid : Grid) (id : ItemId) (change : Entry → Entry) : Grid :=
  { grid with entries := grid.entries.modify id change }

/-- The entries in view order. -/
def inOrder (grid : Grid) : List (ItemId × Entry) :=
  grid.ids.filterMap fun id => (grid.find? id).map fun entry => (id, entry)

/-- The selected entries in view order. -/
def selected (grid : Grid) : List (ItemId × Entry) := grid.inOrder.filter (·.2.selected)

/-- How many of the entries are selected. -/
def countSelected (grid : Grid) : Nat :=
  (grid.entries.rows.filter (·.2.selected)).length

/-- Counts the selected entries anew. -/
def recount (grid : Grid) : Grid := { grid with selectionCount := grid.countSelected }

/-! ## Adding and dropping entries -/

/-- Adds an entry for an artifact behind the others, unless there is one already. -/
def add (grid : Grid) (ref : Artifact) : Grid :=
  if grid.contains ref.id then grid
  else
    { grid with
      entries := grid.entries.insert ref.id (Entry.ofRef ref)
      ids := grid.ids ++ [ref.id] }

/-- Adds entries for the artifacts that have none, and returns their ids in order. -/
def addAll (grid : Grid) : List Artifact → List ItemId × Grid
  | [] => ([], grid)
  | ref :: rest =>
    let (added, grid') := (grid.add ref).addAll rest
    (if grid.contains ref.id then added else ref.id :: added, grid')

/-- What was dropped: the ids, and the handles of their loaded contents. -/
structure Removal where
  /-- The ids whose entries were dropped. -/
  ids : List ItemId
  /-- The handles to give back. -/
  handles : List Handle
  deriving DecidableEq, Repr

/-- Drops the entries of the given ids, in the order given. Their places in the view are left
to the caller. -/
def dropEntries (grid : Grid) : List ItemId → Removal × Grid
  | [] => (⟨[], []⟩, grid)
  | id :: rest =>
    match grid.find? id with
    | none => grid.dropEntries rest
    | some entry =>
      let (removal, grid') :=
        { grid with entries := grid.entries.erase id }.dropEntries rest
      (⟨id :: removal.ids, entry.handles ++ removal.handles⟩, grid')

/-- Removes the entries of the given ids from the view. -/
def discard (grid : Grid) (ids : List ItemId) : Removal × Grid :=
  let (removal, grid') := grid.dropEntries ids
  (removal,
    if removal.ids.isEmpty then grid'
    else { grid' with ids := grid'.ids.filter (· ∉ removal.ids) }.recount)

/-- What clearing the view dropped. -/
structure Clearance where
  /-- The handles to give back. -/
  handles : List Handle
  /-- Whether a running query request went back to idle. -/
  querySettled : Bool
  deriving DecidableEq, Repr

/-- Drops every entry and begins a new epoch. The query is kept if `keepQuery` says so; a query
request that runs goes back to idle, since its page will not be merged. -/
def clear (grid : Grid) (keepQuery : Bool) : Clearance × Grid :=
  let settled := grid.requests.query = .loading
  (⟨grid.entries.rows.flatMap (·.2.handles), settled⟩,
    { grid with
      entries := .empty
      ids := []
      selectionCount := 0
      active := if keepQuery then grid.active else none
      epoch := grid.epoch + 1
      requests := if settled then grid.requests.set .query .idle else grid.requests })

end Grid

end MediaGrid
