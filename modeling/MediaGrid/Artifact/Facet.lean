/-!
# Facets and request states

What can be loaded for an entry of the grid, how far its loading is, and how far the
requests are that concern the grid as a whole.
-/

namespace MediaGrid

/-- The parts of an entry that are loaded on their own. -/
inductive Facet where
  /-- The small image. -/
  | thumbnail
  /-- The full-sized image. -/
  | image
  /-- The metadata record. -/
  | metadata
  deriving DecidableEq, Repr

/-- The facets that are fetched as bytes. -/
inductive ByteFacet where
  /-- The small image. -/
  | thumbnail
  /-- The full-sized image. -/
  | full
  deriving DecidableEq, Repr

/-- The facet that fetched bytes belong to. -/
def ByteFacet.facet : ByteFacet → Facet
  | .thumbnail => .thumbnail
  | .full => .image

/-- How far the loading of a facet is. -/
inductive LoadStage where
  /-- Not there and not asked for. -/
  | notLoaded
  /-- Asked for. -/
  | loading
  /-- There. -/
  | loaded
  deriving DecidableEq, Repr

/-- The requests whose state the grid shows. -/
inductive Request where
  /-- The query that fills the view. -/
  | query
  /-- Archiving the selection. -/
  | download
  /-- Deleting the selection. -/
  | delete
  /-- Editing the metadata of the selection. -/
  | metadataEdit
  deriving DecidableEq, Repr

/-- How far a request is. -/
inductive RequestStatus where
  /-- Nothing was asked for. -/
  | idle
  /-- The request runs. -/
  | loading
  /-- The last request succeeded. -/
  | succeeded
  /-- The last request failed, with the text of the error. -/
  | failed (error : String)
  deriving DecidableEq, Repr

end MediaGrid
