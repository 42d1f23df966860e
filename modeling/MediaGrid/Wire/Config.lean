import MediaGrid.Wire.Search

/-!
# Reading a configuration

A configuration is read from JSON text, or from the bytes of a file that hold such a text.
What the text leaves out has its standard value. The configuration that was read has to meet
the rules of `Config.fault?`.
-/

namespace MediaGrid

open Json

namespace Config

/-- Reads the parts of a configuration, without looking at the rules. -/
def read (source : Source) : Option Config := do
  let parts ← source.parts?
    ["results_per_page", "thumbnail_chunk_size", "suggestion_limit", "snippet_length",
      "suggestion_cache_capacity", "suggestion_cache_ttl_seconds", "visibility_buffer_ratio",
      "event_bus_capacity", "orderings"]
  let small := Source.natural? shortMax
  let large := Source.natural? wordMax
  let resultsPerPage ← parts.orElse "results_per_page" standard.resultsPerPage small
  let thumbnailChunk ← parts.orElse "thumbnail_chunk_size" standard.thumbnailChunk large
  let suggestionLimit ← parts.orElse "suggestion_limit" standard.suggestionLimit small
  let snippetLength ← parts.orElse "snippet_length" standard.snippetLength large
  let cacheCapacity ← parts.orElse "suggestion_cache_capacity" standard.cacheCapacity large
  let cacheSeconds ← parts.orElse "suggestion_cache_ttl_seconds" standard.cacheSeconds large
  let bufferRatio ← parts.orElse "visibility_buffer_ratio" standard.bufferRatio Source.real?
  let busCapacity ← parts.orElse "event_bus_capacity" standard.busCapacity large
  let orderings ← parts.orElse "orderings" standard.orderings (Source.list? SortKey.read)
  return { resultsPerPage, thumbnailChunk, suggestionLimit, snippetLength, cacheCapacity,
           cacheSeconds, bufferRatio, busCapacity, orderings }

/-- Reads a configuration from JSON text. -/
def ofText (text : String) : Except Failure Config :=
  match Json.parse text >>= read with
  | some config => config.checked
  | none => .error .malformedText

/-- Reads a configuration from the bytes of a file; there are none where the file is
missing. -/
def ofFile (bytes : Option ByteArray) : Except Failure Config :=
  match bytes >>= String.fromUTF8? with
  | some text => ofText text
  | none => .error .unreadableFile

end Config

end MediaGrid
