import MediaGrid.Artifact.Facet
import MediaGrid.Content.Uuid
import MediaGrid.Table

/-!
# The shelf of contents

Fetched contents are put on a shelf, where each has a local address. Whoever puts a content
there gets the handle that owns it, and hands it back when the content is no longer needed.
The shelf counts what it was given and what it let go.
-/

namespace MediaGrid

/-- A content that is kept. -/
structure Content where
  /-- The facet it belongs to. -/
  facet : Facet
  /-- What was fetched. -/
  data : String
  deriving DecidableEq, Repr

/-- What owns a content on a shelf. -/
structure Handle where
  /-- The identifier under which the content is kept. -/
  id : Uuid
  deriving DecidableEq, Repr

/-- What every local address begins with. -/
def addressScheme : String := "blob:artifact-grid"

/-- The local address of a content. -/
def Handle.url (handle : Handle) : String := addressScheme ++ "/" ++ handle.id.text

/-- A shelf of contents. -/
structure Shelf where
  /-- The contents that are kept, by identifier. -/
  contents : Table Uuid Content
  /-- How many contents were ever put on the shelf. -/
  created : Nat
  /-- How many of them were handed back. -/
  released : Nat
  deriving DecidableEq, Repr

namespace Shelf

/-- The shelf that never held anything. -/
def empty : Shelf := ⟨.empty, 0, 0⟩

/-- Puts a content on the shelf under a new identifier. -/
def put (shelf : Shelf) (id : Uuid) (facet : Facet) (data : String) : Handle × Shelf :=
  (⟨id⟩, { shelf with
    contents := shelf.contents.insert id ⟨facet, data⟩
    created := shelf.created + 1 })

/-- Whether a content is kept under an identifier. -/
def keeps (shelf : Shelf) (id : Uuid) : Bool := shelf.contents.contains id

/-- Takes back a handle and drops its content. The handle of another shelf has no effect. -/
def takeBack (shelf : Shelf) (handle : Handle) : Shelf :=
  if shelf.keeps handle.id then
    { shelf with
      contents := shelf.contents.erase handle.id
      released := shelf.released + 1 }
  else shelf

/-- Takes back several handles. -/
def takeBackAll (shelf : Shelf) (handles : List Handle) : Shelf :=
  handles.foldl takeBack shelf

/-- The content kept under an identifier. -/
def find? (shelf : Shelf) (id : Uuid) : Option Content := shelf.contents.find? id

/-- The identifier that a local address holds. -/
def addressId? (url : String) : Option Uuid :=
  let lead := (addressScheme ++ "/").toList
  if lead.isPrefixOf url.toList then
    Uuid.parse? (String.ofList (url.toList.drop lead.length))
  else none

/-- What is kept at a local address. -/
def contentAt? (shelf : Shelf) (url : String) : Option String :=
  (addressId? url >>= shelf.find?).map (·.data)

/-- How many contents are kept. -/
def size (shelf : Shelf) : Nat := shelf.contents.rows.length

/-- How many contents of one facet are kept. -/
def countOf (shelf : Shelf) (facet : Facet) : Nat :=
  (shelf.contents.rows.filter fun row => row.2.facet == facet).length

end Shelf

end MediaGrid
