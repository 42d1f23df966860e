import MediaGrid.Artifact.Basic
import MediaGrid.Artifact.Facet
import MediaGrid.Artifact.Metadata
import MediaGrid.Content.Shelf

/-!
# Entries of the grid

What the grid keeps about one artifact: its loaded facets, the addresses of a video, and
whether it is selected. A byte facet that is being fetched remembers the ticket of its
claim, so only the holder of the ticket can settle it; one that is loaded owns the handle
of its content.
-/

namespace MediaGrid

/-- How far a byte facet is. -/
inductive ByteSlot where
  /-- Not there and not asked for. -/
  | empty
  /-- Being fetched by the holder of the ticket. -/
  | pending (ticket : Nat)
  /-- There, under the handle. -/
  | loaded (handle : Handle)
  deriving DecidableEq, Repr

/-- The loading state of a byte facet. -/
def ByteSlot.status : ByteSlot → LoadStage
  | .empty => .notLoaded
  | .pending _ => .loading
  | .loaded _ => .loaded

/-- The handle of a loaded facet. -/
def ByteSlot.handle? : ByteSlot → Option Handle
  | .loaded handle => some handle
  | _ => none

/-- How far the metadata is. -/
inductive MetadataSlot where
  /-- Not there and not asked for. -/
  | empty
  /-- Asked for. -/
  | pending
  /-- There. -/
  | loaded (record : Metadata)
  deriving DecidableEq

/-- The loading state of the metadata. -/
def MetadataSlot.status : MetadataSlot → LoadStage
  | .empty => .notLoaded
  | .pending => .loading
  | .loaded _ => .loaded

/-- The record of loaded metadata. -/
def MetadataSlot.record? : MetadataSlot → Option Metadata
  | .loaded record => some record
  | _ => none

/-- What the grid keeps about an artifact. -/
structure Entry where
  /-- The artifact. -/
  ref : Artifact
  /-- The small image. -/
  thumbnail : ByteSlot
  /-- The full-sized image. -/
  image : ByteSlot
  /-- The metadata record. -/
  metadata : MetadataSlot
  /-- Where a video can be watched, if that was asked for. -/
  video : Option VideoLinks
  /-- Whether the entry is selected. -/
  selected : Bool
  deriving DecidableEq

namespace Entry

/-- The entry of an artifact of which nothing is loaded. -/
def ofRef (ref : Artifact) : Entry := ⟨ref, .empty, .empty, .empty, none, false⟩

/-- The slot of a byte facet. -/
def slot (entry : Entry) : ByteFacet → ByteSlot
  | .thumbnail => entry.thumbnail
  | .full => entry.image

/-- The entry with another slot for a byte facet. -/
def setSlot (entry : Entry) (facet : ByteFacet) (slot : ByteSlot) : Entry :=
  match facet with
  | .thumbnail => { entry with thumbnail := slot }
  | .full => { entry with image := slot }

/-- The loading state of a facet. -/
def status (entry : Entry) : Facet → LoadStage
  | .thumbnail => entry.thumbnail.status
  | .image => entry.image.status
  | .metadata => entry.metadata.status

/-- The handles of the loaded byte facets. -/
def handles (entry : Entry) : List Handle :=
  entry.thumbnail.handle?.toList ++ entry.image.handle?.toList

end Entry

end MediaGrid
