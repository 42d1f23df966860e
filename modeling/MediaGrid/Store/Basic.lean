import MediaGrid.Event
import MediaGrid.Failure
import MediaGrid.Grid.Bytes
import MediaGrid.Grid.Choice
import MediaGrid.Grid.Paging
import MediaGrid.Grid.Records
import MediaGrid.Search.Completion

/-!
# The store

The store joins the state of the grid with the shelf of fetched contents, the cache of
completions and the events it published. This module holds the operations
that need no answer from the backend. Each changes the grid, hands the handles of dropped
contents back to the shelf, and publishes what changed; an operation that changes nothing
publishes nothing.
-/

namespace MediaGrid

/-- The grid with everything that goes with it. -/
structure Store where
  /-- The configuration. -/
  config : Config
  /-- The state of the grid. -/
  grid : Grid
  /-- The contents of loaded facets. -/
  shelf : Shelf
  /-- The completions of earlier searches, by search text without outer blanks. -/
  cache : List (String × List String)
  /-- The events published so far, oldest first. -/
  published : List Event
  /-- The identifiers that contents get, one for each content ever put on the shelf. -/
  draw : Nat → Uuid

namespace Store

/-- A store with an empty grid and an empty shelf. -/
def fresh (config : Config) (draw : Nat → Uuid) : Store := ⟨config, .empty, .empty, [], [], draw⟩

/-- A store with an empty grid, if the configuration meets the rules. -/
def ofConfig (config : Config) : Except Failure Store :=
  config.checked.map (fresh · Uuid.supply)

/-- Publishes an event. -/
def publish (store : Store) (event : Event) : Store :=
  { store with published := store.published ++ [event] }

/-- Publishes an event about some ids, unless there are none. -/
def publishFor (store : Store) (ids : List ItemId) (event : List ItemId → Event) : Store :=
  if ids.isEmpty then store else store.publish (event ids)

/-- Replaces the grid and publishes an event, if the grid changed. -/
def commit (store : Store) (changed : Option Grid) (event : Grid → Event) : Bool × Store :=
  match changed with
  | none => (false, store)
  | some grid => (true, { store with grid := grid }.publish (event grid))

/-! ## Requests -/

/-- Puts a request into another state. -/
def moveRequest (store : Store) (kind : Request) (state : RequestStatus) : Store :=
  (store.commit (store.grid.moveRequest? kind state) fun _ => .requestMoved kind state).2

/-- Puts a request into the state of having failed. -/
def requestFailed (store : Store) (kind : Request) (failure : Failure) : Store :=
  store.moveRequest kind (.failed failure.message)

/-- Starts a request on the selection, and returns the selected artifacts. -/
def beginOnSelection (store : Store) (kind : Request) :
    Option (List (ItemId × Artifact) × Store) :=
  (store.grid.beginOnSelection? kind).map fun (targets, grid) =>
    (targets, { store with grid := grid }.publish (.requestMoved kind .loading))

/-! ## Entries -/

/-- Adds entries for the artifacts that have none, and returns their ids. -/
def addAll (store : Store) (refs : List Artifact) : List ItemId × Store :=
  let (added, grid) := store.grid.addAll refs
  (added, { store with grid := grid }.publishFor added .added)

/-- Drops every entry and hands their contents back to the shelf. -/
def clear (store : Store) (keepQuery : Bool) : Store :=
  let (clearance, grid) := store.grid.clear keepQuery
  let store := { store with grid := grid, shelf := store.shelf.takeBackAll clearance.handles }
  let store := store.publish (.viewCleared keepQuery)
  if clearance.querySettled then store.publish (.requestMoved .query .idle) else store

/-- Drops the loaded contents of a facet, and returns how many there were. -/
def unload (store : Store) (facet : ByteFacet) (ids : List ItemId) : Nat × Store :=
  let (removal, grid) := store.grid.unload facet ids
  let store := { store with grid := grid, shelf := store.shelf.takeBackAll removal.handles }
  (removal.ids.length, store.publishFor removal.ids (.facetDropped · facet.facet))

/-- Stores a fetched content under a new handle, if the facet still waits for the claim. -/
def fill (store : Store) (facet : ByteFacet) (claim : Claim) (content : String) :
    Bool × Store :=
  let create := fun shelf : Shelf => shelf.put (store.draw shelf.created) facet.facet content
  match store.grid.fill? facet claim create store.shelf with
  | none => (false, store)
  | some (grid, shelf) =>
    (true, { store with grid := grid, shelf := shelf }.publish
      (.facetLoaded claim.id facet.facet))

/-- Removes entries that were deleted, hands their contents back to the shelf and returns
their ids. -/
def discard (store : Store) (ids : List ItemId) : List ItemId × Store :=
  let (removal, grid) := store.grid.discard ids
  let store := { store with grid := grid, shelf := store.shelf.takeBackAll removal.handles }
  let store := store.publishFor removal.ids .removed
  (removal.ids, store.publishFor removal.ids (.selected · false grid.selectionCount))

/-- Applies an update to loaded metadata, and returns the ids that had any. -/
def amend (store : Store) (ids : List ItemId) (update : Metadata) : List ItemId × Store :=
  let (amended, grid) := store.grid.amendRecords update ids
  (amended, { store with grid := grid }.publishFor amended .described)

/-! ## Selection, dialog and videos -/

/-- Selects or deselects the entries of the given ids, or all. -/
def mark (store : Store) (ids : Option (List ItemId)) (value : Bool) : Bool × Store :=
  let (changed, grid) := store.grid.mark ids value
  if changed.isEmpty then (false, store)
  else
    (true, { store with grid := grid }.publish
      (.selected changed value grid.selectionCount))

/-- Opens or closes the edit dialog. -/
def setDialog (store : Store) (isOpen : Bool) : Bool × Store :=
  store.commit (store.grid.setDialog? isOpen) fun _ => .dialogMoved isOpen

/-- Sets or clears the addresses of a video. -/
def setVideo (store : Store) (id : ItemId) (urls : Option VideoLinks) : Bool × Store :=
  store.commit (store.grid.setVideo? id urls) fun _ => .videoChanged id

/-- Sets the addresses of a video to those that the backend gives for it. -/
def showVideo (store : Store) (urlsOf : Artifact → Option VideoLinks) (id : ItemId) :
    Bool × Store :=
  match store.grid.find? id with
  | none => (false, store)
  | some entry =>
    if entry.ref.kind ≠ .video then (false, store)
    else
      match urlsOf entry.ref with
      | none => (false, store)
      | some urls => store.setVideo id (some urls)

/-! ## The search text -/

/-- What is published about a search. -/
def searchNews (grid : Grid) : Event := .searched grid.search grid.menu grid.completions

/-- Sets the search text and the menu that goes with it. -/
def typeSearch (store : Store) (search : String) : Bool × Store :=
  store.commit (store.grid.setSearch? search (Menu.ofText search)) searchNews

/-- Puts a completion into the search text: in place of the word being typed while a menu is
open, and else in place of the last run of words. -/
def pick (store : Store) (completion : String) : Bool × Store :=
  let search := store.grid.search
  store.typeSearch <|
    match store.grid.menu with
    | .closed => completeRun search completion
    | .date | .platform => completeWord search completion

/-- Sets the completions of a search, if it is still the current one. -/
def offerCompletions (store : Store) (search : String) (completions : List String) : Store :=
  if store.grid.search = search then
    (store.commit (store.grid.setCompletions? completions) searchNews).2
  else store

/-! ## The cache of completions -/

/-- The cached completions of a search. Nothing is found where entries live for no time. -/
def cached? (store : Store) (search : String) : Option (List String) :=
  if store.config.cacheSeconds = 0 then none
  else (store.cache.find? (·.1 == Text.trim search)).map (·.2)

/-- Caches the completions of a search. -/
def remember (store : Store) (search : String) (completions : List String) : Store :=
  let key := Text.trim search
  { store with cache := (key, completions) :: store.cache.filter (·.1 != key) }

/-- Empties the cache. -/
def forget (store : Store) : Store := { store with cache := [] }

end Store

end MediaGrid
