import MediaGrid.Artifact.Basic
import MediaGrid.Artifact.Facet
import MediaGrid.Search.Menu

/-!
# Events

What the grid tells its subscribers. Every change of the grid that a subscriber can see has
an event, and an operation that changes nothing has none.
-/

namespace MediaGrid

/-- A change of the grid. -/
inductive Event where
  /-- Entries were added behind the others. -/
  | added (ids : List ItemId)
  /-- Entries were removed. -/
  | removed (ids : List ItemId)
  /-- A byte facet of an entry was loaded. -/
  | facetLoaded (id : ItemId) (facet : Facet)
  /-- A byte facet of some entries was dropped. -/
  | facetDropped (ids : List ItemId) (facet : Facet)
  /-- The metadata of some entries was loaded or changed. -/
  | described (ids : List ItemId)
  /-- Entries were selected or deselected; so many are selected now. -/
  | selected (ids : List ItemId) (selected : Bool) (count : Nat)
  /-- A request is in another state. -/
  | requestMoved (request : Request) (state : RequestStatus)
  /-- A page of results was merged. -/
  | pageMerged (page : Nat) (hasMore : Bool)
  /-- All entries were dropped; the query was kept or dropped with them. -/
  | viewCleared (queryPreserved : Bool)
  /-- Search text, menu or completions changed. -/
  | searched (search : String) (menu : Menu) (completions : List String)
  /-- The edit dialog was opened or closed. -/
  | dialogMoved (isOpen : Bool)
  /-- The addresses of a video were set or cleared. -/
  | videoChanged (id : ItemId)
  deriving DecidableEq, Repr

end MediaGrid
