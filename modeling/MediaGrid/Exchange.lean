import MediaGrid.Artifact.Facet
import MediaGrid.Failure
import MediaGrid.Search.Query

/-!
# Exchange with the backend

The calls that the grid makes to the backend that keeps the artifacts, and the replies it
waits for. A reply may be a failure.
-/

namespace MediaGrid

/-- A query for one page of results. -/
structure PageRequest where
  /-- The queries of which an artifact has to meet one; none asks for everything. -/
  predicates : List Query
  /-- What results are ordered by. -/
  orderings : List SortKey
  /-- How many results a page holds. -/
  resultsPerPage : Nat
  /-- Which page is wanted, from zero. -/
  page : Nat
  deriving DecidableEq, Repr

/-- One page of results. -/
structure Page where
  /-- The artifacts of the page. -/
  refs : List Artifact
  /-- Which page it is. -/
  number : Nat
  /-- Whether no page follows. -/
  isLast : Bool
  deriving DecidableEq, Repr

/-- One entry of an archive. -/
structure ArchiveEntry where
  /-- The artifact. -/
  artifact : Artifact
  /-- Its metadata, if it was known. -/
  metadata : Option Metadata
  deriving DecidableEq

/-- A call to the backend. -/
inductive Call where
  /-- Asks for a page of results. -/
  | query (request : PageRequest)
  /-- Asks for the bytes of one artifact. -/
  | fetch (ref : Artifact) (facet : ByteFacet)
  /-- Asks for metadata records. -/
  | readRecords (refs : List Artifact)
  /-- Changes metadata records. -/
  | changeRecords (update : Metadata) (refs : List Artifact)
  /-- Deletes artifacts. -/
  | delete (refs : List Artifact)
  /-- Writes an archive. -/
  | archive (items : List ArchiveEntry)
  deriving DecidableEq

/-- The outcome of a call, or of the several fetches made at once. -/
inductive Reply where
  /-- The outcome of a query. -/
  | page (outcome : Except Failure Page)
  /-- The outcomes of fetches, in the order in which they were made. -/
  | fetched (outcomes : List (Except Failure String))
  /-- The outcome of asking for metadata. -/
  | records (outcome : Except Failure (List (Artifact × Metadata)))
  /-- The outcome of a change or of writing an archive. -/
  | settled (outcome : Except Failure Unit)

end MediaGrid
