import MediaGrid.Exchange
import MediaGrid.Search.Menu
import MediaGrid.Wire.Artifact

/-!
# Wire forms of searches

How queries, requests, pages of results, archive entries and menus are written as data
values and read back.
-/

namespace MediaGrid

open Json

/-- The largest 32-bit natural number. -/
def shortMax : Nat := UInt32.size - 1

namespace Menu

/-- The names of the menus. -/
def names : List (String × Menu) := [("none", .closed), ("date", .date), ("platform", .platform)]

/-- Reads a menu. -/
def read : Source → Option Menu := chosen? names

/-- Writes a menu. -/
def write : Menu → Value := nameIn names

end Menu

namespace DateRange

/-- Reads a range of days. -/
def read (source : Source) : Option DateRange := do
  let parts ← source.parts? ["minValue", "maxValue"]
  let first ← parts.optional "minValue" Day.read
  let last ← parts.optional "maxValue" Day.read
  return ⟨first, last⟩

/-- Writes a range of days. -/
def write (range : DateRange) : Value :=
  .object (presentField "minValue" Day.write range.first ++
    presentField "maxValue" Day.write range.last)

end DateRange

namespace Query

/-- Reads a query. -/
def read (source : Source) : Option Query := do
  let parts ← source.parts? ["name", "notes", "camera", "session", "captureDate"]
  let name ← parts.optional "name" Source.text?
  let notes ← parts.optional "notes" Source.text?
  let camera ← parts.optional "camera" Source.text?
  let session ← parts.optional "session" Source.text?
  let captured ← parts.optional "captureDate" DateRange.read
  return ⟨name, notes, camera, session, captured⟩

/-- Writes a query. -/
def write (query : Query) : Value :=
  .object (presentField "name" .text query.name ++ presentField "notes" .text query.notes ++
    presentField "camera" .text query.camera ++ presentField "session" .text query.session ++
    presentField "captureDate" DateRange.write query.captured)

end Query

namespace SortDirection

/-- The names of the directions. -/
def names : List (String × SortDirection) := [("asc", .ascending), ("desc", .descending)]

/-- Reads a direction. -/
def read : Source → Option SortDirection := chosen? names

/-- Writes a direction. -/
def write : SortDirection → Value := nameIn names

end SortDirection

namespace SortKey

/-- Reads a key of an ordering. -/
def read (source : Source) : Option SortKey := do
  let parts ← source.parts? ["field", "direction"]
  let field ← parts.required "field" Source.text?
  let direction ← parts.required "direction" SortDirection.read
  return ⟨field, direction⟩

/-- Writes a key of an ordering. -/
def write (key : SortKey) : Value :=
  .object [("field", .text key.field), ("direction", key.direction.write)]

end SortKey

namespace PageRequest

/-- Reads a request. -/
def read (source : Source) : Option PageRequest := do
  let parts ← source.parts? ["predicates", "orderings", "resultsPerPage", "pageNum"]
  let predicates ← parts.required "predicates" (Source.list? Query.read)
  let orderings ← parts.required "orderings" (Source.list? SortKey.read)
  let resultsPerPage ← parts.required "resultsPerPage" (Source.natural? shortMax)
  let page ← parts.required "pageNum" (Source.natural? shortMax)
  return ⟨predicates, orderings, resultsPerPage, page⟩

/-- Writes a request. -/
def write (request : PageRequest) : Value :=
  .object [("predicates", Json.ofList Query.write request.predicates),
    ("orderings", Json.ofList SortKey.write request.orderings),
    ("resultsPerPage", ofNat request.resultsPerPage), ("pageNum", ofNat request.page)]

end PageRequest

namespace Page

/-- Reads a page of results. -/
def read (source : Source) : Option Page := do
  let parts ← source.parts? ["refs", "pageNum", "isLastPage"]
  let refs ← parts.required "refs" (Source.list? Artifact.read)
  let number ← parts.required "pageNum" (Source.natural? shortMax)
  let isLast ← parts.required "isLastPage" Source.boolean?
  return ⟨refs, number, isLast⟩

/-- Writes a page of results. -/
def write (page : Page) : Value :=
  .object [("refs", Json.ofList Artifact.write page.refs), ("pageNum", ofNat page.number),
    ("isLastPage", .boolean page.isLast)]

end Page

namespace ArchiveEntry

/-- Reads an entry of an archive. -/
def read (source : Source) : Option ArchiveEntry := do
  let parts ← source.parts? ["artifact", "metadata"]
  let artifact ← parts.required "artifact" Artifact.read
  let metadata ← parts.nullable "metadata" (Metadata.read 1)
  return ⟨artifact, metadata⟩

/-- Writes an entry of an archive. -/
def write (item : ArchiveEntry) : Value :=
  .object [("artifact", item.artifact.write), ("metadata", ofOption Metadata.write item.metadata)]

end ArchiveEntry

end MediaGrid
