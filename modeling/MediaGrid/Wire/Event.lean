import MediaGrid.Event
import MediaGrid.Wire.Search

/-!
# Wire forms of events

An event is written as its name with the values that belong to it.
-/

namespace MediaGrid.Event

open Json

/-- The name of an event. -/
def name : Event → String
  | .added _ => "EntitiesAdded"
  | .removed _ => "EntitiesRemoved"
  | .facetLoaded _ _ => "FacetLoaded"
  | .facetDropped _ _ => "FacetCleared"
  | .described _ => "MetadataLoaded"
  | .selected _ _ _ => "SelectionChanged"
  | .requestMoved _ _ => "RequestStateChanged"
  | .pageMerged _ _ => "QueryUpdated"
  | .viewCleared _ => "ViewCleared"
  | .searched _ _ _ => "SearchUpdated"
  | .dialogMoved _ => "EditDialogChanged"
  | .videoChanged _ => "VideoUrlChanged"

/-- The field of a list of ids. -/
def idsField (ids : List ItemId) : String × Value := ("ids", ofList ItemId.write ids)

/-- The values that belong to an event. -/
def payload : Event → List (String × Value)
  | .added ids => [idsField ids]
  | .removed ids => [idsField ids]
  | .facetLoaded id facet => [("id", id.write), ("facet", facet.write)]
  | .facetDropped ids facet => [idsField ids, ("facet", facet.write)]
  | .described ids => [idsField ids]
  | .selected ids value count =>
    [idsField ids, ("selected", .boolean value), ("selection_count", ofNat count)]
  | .requestMoved request state => [("request", request.write), ("state", state.write)]
  | .pageMerged page hasMore =>
    [("page_num", ofNat page), ("has_more_pages", .boolean hasMore)]
  | .viewCleared preserved => [("query_preserved", .boolean preserved)]
  | .searched search menu completions =>
    [("search_string", .text search), ("menu", menu.write),
      ("completions", ofList .text completions)]
  | .dialogMoved isOpen => [("open", .boolean isOpen)]
  | .videoChanged id => [("id", id.write)]

/-- Writes an event. -/
def write (event : Event) : Value :=
  .object [("type", .text event.name), ("payload", .object event.payload)]

end MediaGrid.Event
