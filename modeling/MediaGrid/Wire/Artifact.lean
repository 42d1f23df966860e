import MediaGrid.Artifact.Basic
import MediaGrid.Artifact.Facet
import MediaGrid.Artifact.Metadata
import MediaGrid.Calendar.IsoText
import MediaGrid.Json.Form

/-!
# Wire forms of artifacts

How artifacts, ids, metadata records and states are written as data values and read back.
Parts of a record that are absent are left out.
-/

namespace MediaGrid

open Json

/-- The value of a name in a table of names. -/
def named? (table : List (String × α)) (name : String) : Option α :=
  (table.find? (·.1 == name)).map (·.2)

/-- The choice of a name in a table of names. -/
def chosen? (table : List (String × α)) (source : Source) : Option α :=
  source.choice? >>= named? table

/-- The name of a value in a table of names. -/
def nameIn [DecidableEq α] (table : List (String × α)) (a : α) : Value :=
  .text (((table.find? (·.2 == a)).map (·.1)).getD "")

namespace MediaKind

/-- The names of the kinds. -/
def names : List (String × MediaKind) := [("IMAGE", .image), ("VIDEO", .video)]

/-- Reads a kind. -/
def read : Source → Option MediaKind := chosen? names

/-- Writes a kind. -/
def write : MediaKind → Value := nameIn names

end MediaKind

namespace Facet

/-- The names of the facets. -/
def names : List (String × Facet) :=
  [("thumbnail", .thumbnail), ("image", .image), ("metadata", .metadata)]

/-- Reads a facet. -/
def read : Source → Option Facet := chosen? names

/-- Writes a facet. -/
def write : Facet → Value := nameIn names

end Facet

namespace ByteFacet

/-- The names of the byte facets. -/
def names : List (String × ByteFacet) := [("thumbnail", .thumbnail), ("full", .full)]

/-- Reads a byte facet. -/
def read : Source → Option ByteFacet := chosen? names

/-- Writes a byte facet. -/
def write : ByteFacet → Value := nameIn names

end ByteFacet

namespace LoadStage

/-- The names of the loading states. -/
def names : List (String × LoadStage) :=
  [("NOT_LOADED", .notLoaded), ("LOADING", .loading), ("LOADED", .loaded)]

/-- Reads a loading state. -/
def read : Source → Option LoadStage := chosen? names

/-- Writes a loading state. -/
def write : LoadStage → Value := nameIn names

end LoadStage

namespace Request

/-- The names of the requests. -/
def names : List (String × Request) :=
  [("query", .query), ("download", .download), ("delete", .delete),
    ("metadata_edit", .metadataEdit)]

/-- Reads the kind of a request. -/
def read : Source → Option Request := chosen? names

/-- Writes the kind of a request. -/
def write : Request → Value := nameIn names

end Request

namespace RequestStatus

/-- The status of a request, whatever its error. -/
inductive Status where
  /-- Nothing was asked for. -/
  | idle
  /-- The request runs. -/
  | loading
  /-- The last request succeeded. -/
  | succeeded
  /-- The last request failed. -/
  | failed
  deriving DecidableEq, Repr

/-- The names of the statuses. -/
def Status.names : List (String × Status) :=
  [("IDLE", .idle), ("LOADING", .loading), ("SUCCEEDED", .succeeded), ("FAILED", .failed)]

/-- The state of a status with the error beside it: a failure needs a text, and any other
status no more than `null`. -/
def ofParts (status : Status) (error : Source) : Option RequestStatus :=
  match status with
  | .failed => error.text?.map .failed
  | .idle => if error matches .null then some .idle else none
  | .loading => if error matches .null then some .loading else none
  | .succeeded => if error matches .null then some .succeeded else none

/-- Reads the state of a request: its status and its error. By name, the status is a choice
and the error may be left out where there is none; in a list, the status is a plain text and
the error always follows it. -/
def read (source : Source) : Option RequestStatus := do
  let parts ← source.parts? ["status", "error"]
  if parts.positional then
    let name ← parts.required "status" Source.text?
    let status ← named? Status.names name
    parts.required "error" (ofParts status)
  else
    let status ← parts.required "status" (chosen? Status.names)
    ofParts status ((parts.get? "error").getD .null)

/-- Writes the state of a request. -/
def write : RequestStatus → Value
  | .idle => .object [("status", .text "IDLE")]
  | .loading => .object [("status", .text "LOADING")]
  | .succeeded => .object [("status", .text "SUCCEEDED")]
  | .failed error => .object [("status", .text "FAILED"), ("error", .text error)]

end RequestStatus

namespace ItemId

/-- Reads an id. -/
def read (source : Source) : Option ItemId := source.text?.map ItemId.mk

/-- Writes an id. -/
def write (id : ItemId) : Value := .text id.text

end ItemId

namespace Artifact

/-- Reads an artifact. -/
def read (source : Source) : Option Artifact := do
  let parts ← source.parts? ["bucket", "name", "kind"]
  let bucket ← parts.required "bucket" Source.text?
  let name ← parts.required "name" Source.text?
  let kind ← parts.required "kind" MediaKind.read
  return ⟨bucket, name, kind⟩

/-- Writes an artifact. -/
def write (ref : Artifact) : Value :=
  .object [("bucket", .text ref.bucket), ("name", .text ref.name), ("kind", ref.kind.write)]

end Artifact

namespace VideoLinks

/-- Reads the addresses of a video. -/
def read (source : Source) : Option VideoLinks := do
  let parts ← source.parts? ["preview_url", "streamable_url"]
  let preview ← parts.required "preview_url" Source.text?
  let stream ← parts.required "streamable_url" Source.text?
  return ⟨preview, stream⟩

/-- Writes the addresses of a video. -/
def write (urls : VideoLinks) : Value :=
  .object [("preview_url", .text urls.preview), ("streamable_url", .text urls.stream)]

end VideoLinks

namespace Day

/-- Reads a day. -/
def read (source : Source) : Option Day := source.text? >>= Day.ofText?

/-- Writes a day. -/
def write (day : Day) : Value := .text day.text

end Day

namespace Metadata

/-- Reads a metadata record that stands inside `depth` lists and objects. -/
def read (depth : Nat) (source : Source) : Option Metadata := do
  let parts ← source.parts?
    ["name", "notes", "camera", "session", "platform", "captureDate", "extra"]
  let name ← parts.optional "name" Source.text?
  let notes ← parts.optional "notes" Source.text?
  let camera ← parts.optional "camera" Source.text?
  let session ← parts.optional "session" Source.text?
  let platform ← parts.optional "platform" Source.text?
  let captureDate ← parts.optional "captureDate" Day.read
  let extra ← parts.orElse "extra" .empty (Source.object? (depth + 1))
  return ⟨name, notes, camera, session, platform, captureDate, extra⟩

/-- Writes a metadata record. -/
def write (record : Metadata) : Value :=
  .object (presentField "name" .text record.name ++ presentField "notes" .text record.notes ++
    presentField "camera" .text record.camera ++ presentField "session" .text record.session ++
    presentField "platform" .text record.platform ++
    presentField "captureDate" Day.write record.captureDate ++
    if record.extra.entries.isEmpty then [] else [("extra", .object record.extra.entries)])

end Metadata

end MediaGrid
