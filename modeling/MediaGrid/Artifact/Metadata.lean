import MediaGrid.Calendar.Day
import MediaGrid.Json.Value

/-!
# Metadata records

The record that a backend keeps about an artifact: a few named fields, each of which may be
absent, and further named values. An update is a record too: what it has replaces what the
other record has, and what it lacks is left alone.
-/

namespace MediaGrid

/-- A metadata record. -/
structure Metadata where
  /-- A title. -/
  name : Option String
  /-- Free notes. -/
  notes : Option String
  /-- The camera that took it. -/
  camera : Option String
  /-- The session it was taken in. -/
  session : Option String
  /-- The platform that carried the camera. -/
  platform : Option String
  /-- The day it was taken. -/
  captureDate : Option Day
  /-- Further named values. -/
  extra : Json.Fields
  deriving DecidableEq

namespace Metadata

/-- The record that says nothing. -/
def empty : Metadata := ⟨none, none, none, none, none, none, .empty⟩

instance : Inhabited Metadata := ⟨empty⟩

/-- The record with everything that `update` has in place of its own. -/
def amend (record update : Metadata) : Metadata where
  name := update.name <|> record.name
  notes := update.notes <|> record.notes
  camera := update.camera <|> record.camera
  session := update.session <|> record.session
  platform := update.platform <|> record.platform
  captureDate := update.captureDate <|> record.captureDate
  extra := record.extra.overlay update.extra

/-- The texts that searches look at, in the order in which suggestions are taken from them. -/
def texts (record : Metadata) : List (Option String) :=
  [record.name, record.notes, record.camera, record.session]

end Metadata

end MediaGrid
