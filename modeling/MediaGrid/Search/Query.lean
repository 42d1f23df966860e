import MediaGrid.Artifact.Metadata
import MediaGrid.Text.Case
import MediaGrid.Text.Occurrence

/-!
# Queries

A query is a conjunction of conditions on a metadata record: texts that have to occur in
its fields, whatever their letter case, and a range of capture days. Two queries are
combined field by field, the second taking precedence.
-/

namespace MediaGrid

/-- A range of days; an end that is absent sets no bound, and both ends are included. -/
structure DateRange where
  /-- The first day of the range. -/
  first : Option Day
  /-- The last day of the range. -/
  last : Option Day
  deriving DecidableEq, Repr

/-- Whether a day lies in the range. -/
def DateRange.contains (range : DateRange) (day : Day) : Bool :=
  !range.first.any day.before && !range.last.any (·.before day)

/-- A conjunction of conditions on a record. -/
structure Query where
  /-- What the name has to contain. -/
  name : Option String
  /-- What the notes have to contain. -/
  notes : Option String
  /-- What the camera has to contain. -/
  camera : Option String
  /-- What the session has to contain. -/
  session : Option String
  /-- When the artifact has to be taken. -/
  captured : Option DateRange
  deriving DecidableEq, Repr

namespace Query

/-- The query that every record meets. -/
def all : Query := ⟨none, none, none, none, none⟩

/-- The query with the conditions of `other` in place of its own where `other` has any. -/
def override (query other : Query) : Query where
  name := other.name <|> query.name
  notes := other.notes <|> query.notes
  camera := other.camera <|> query.camera
  session := other.session <|> query.session
  captured := other.captured <|> query.captured

/-- The text conditions, in the order of `Metadata.texts`. -/
def texts (query : Query) : List (Option String) :=
  [query.name, query.notes, query.camera, query.session]

/-- The number of text conditions. -/
def textCount (query : Query) : Nat :=
  (query.texts.filter Option.isSome).length

/-- Whether the query has no condition. -/
def isEmpty (query : Query) : Bool :=
  query.texts.all Option.isNone && query.captured.isNone

/-- Whether a text condition holds of a field: the wanted text occurs in it, both in lower
case. A field that is absent meets no condition. -/
def textHolds (wanted field : Option String) : Bool :=
  match wanted with
  | none => true
  | some wanted => field.any fun text => Text.contains (Text.lower text) (Text.lower wanted)

/-- Whether a condition on the capture day holds. A record without a day meets none. -/
def rangeHolds (wanted : Option DateRange) (day : Option Day) : Bool :=
  match wanted with
  | none => true
  | some range => day.any range.contains

/-- Whether a record meets every condition of the query. -/
def accepts (query : Query) (record : Metadata) : Bool :=
  ((query.texts.zip record.texts).all fun (wanted, field) => textHolds wanted field) &&
    rangeHolds query.captured record.captureDate

end Query

end MediaGrid
