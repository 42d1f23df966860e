import MediaGrid.Decimal.Notation

/-!
# Configuration

The numbers that tune a grid, their defaults, and the rules they have to meet. The first
rule that is broken is reported.
-/

namespace MediaGrid

/-- The two directions of an ordering. -/
inductive SortDirection where
  /-- Smallest first. -/
  | ascending
  /-- Largest first. -/
  | descending
  deriving DecidableEq, Repr

/-- One key that results are ordered by. -/
structure SortKey where
  /-- The field whose values are compared. -/
  field : String
  /-- Which values come first. -/
  direction : SortDirection
  deriving DecidableEq, Repr

/-- The configuration of a grid. -/
structure Config where
  /-- How many artifacts a page of results holds. -/
  resultsPerPage : Nat
  /-- How many thumbnails are fetched at once. -/
  thumbnailChunk : Nat
  /-- How many results are looked at for completions. -/
  suggestionLimit : Nat
  /-- How many characters a completion has. -/
  snippetLength : Nat
  /-- How many searches have their completions kept. -/
  cacheCapacity : Nat
  /-- How many seconds completions are kept. -/
  cacheSeconds : Nat
  /-- How much of the viewport's extent is added to both its ends. -/
  bufferRatio : Float
  /-- How many events are kept for a slow receiver. -/
  busCapacity : Nat
  /-- What results are ordered by. -/
  orderings : List SortKey

/-- The rules that a configuration may break. -/
inductive ConfigFault where
  /-- Pages are empty. -/
  | resultsPerPage
  /-- Chunks are empty. -/
  | thumbnailChunk
  /-- Completions are empty. -/
  | snippetLength
  /-- The ratio is negative or no number. -/
  | bufferRatio (ratio : Float)
  /-- No event is kept. -/
  | busCapacity

/-- What a broken rule says. -/
def ConfigFault.message : ConfigFault → String
  | .resultsPerPage => "results_per_page must be positive"
  | .thumbnailChunk => "thumbnail_chunk_size must be positive"
  | .snippetLength => "snippet_length must be positive"
  | .bufferRatio ratio =>
    "visibility_buffer_ratio must be a non-negative number, got " ++ Decimal.display ratio.toBits
  | .busCapacity => "event_bus_capacity must be positive"

namespace Config

/-- The configuration used where none is given. -/
def standard : Config where
  resultsPerPage := 50
  thumbnailChunk := 10
  suggestionLimit := 10
  snippetLength := 40
  cacheCapacity := 64
  cacheSeconds := 300
  bufferRatio := 0.5
  busCapacity := 256
  orderings := [⟨"captureDate", .descending⟩]

/-- The first rule that a configuration breaks. -/
def fault? (config : Config) : Option ConfigFault :=
  if config.resultsPerPage = 0 then some .resultsPerPage
  else if config.thumbnailChunk = 0 then some .thumbnailChunk
  else if config.snippetLength = 0 then some .snippetLength
  else if !config.bufferRatio.isFinite || config.bufferRatio < 0.0 then
    some (.bufferRatio config.bufferRatio)
  else if config.busCapacity = 0 then some .busCapacity
  else none

end Config

end MediaGrid
