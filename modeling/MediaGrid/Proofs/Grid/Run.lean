import MediaGrid.Grid.Bytes
import MediaGrid.Grid.Choice
import MediaGrid.Grid.Paging
import MediaGrid.Grid.Records

/-!
# Runs of the grid

An action is one operation of the grid with its arguments, and a run is a list of actions
taken one after the other from the empty grid. The arguments are arbitrary: ids without an
entry, repeated ids, epochs and claims that nobody ever handed out, and pages of any number.
An operation that returns no grid leaves it as it was.
-/

namespace MediaGrid

/-- One operation of the grid with its arguments. -/
inductive GridAction where
  /-- Adds entries for artifacts. -/
  | add (refs : List Artifact)
  /-- Removes entries. -/
  | discard (ids : List ItemId)
  /-- Drops every entry. -/
  | clear (keepQuery : Bool)
  /-- Begins a query at a page. -/
  | openQuery (queries : List Query) (page : Nat)
  /-- Asks for a further page. -/
  | askFurther (page : Nat)
  /-- Merges a page that was asked for in an epoch. -/
  | mergePage (epoch : Nat) (page : Page)
  /-- Takes back the request for a page made in an epoch. -/
  | withdrawPage (epoch : Nat)
  /-- Claims a byte facet of entries. -/
  | claim (facet : ByteFacet) (ids : List ItemId)
  /-- Stores a content for a claim. -/
  | fill (facet : ByteFacet) (claim : Claim) (handle : Handle)
  /-- Gives a claim up. -/
  | giveUp (facet : ByteFacet) (claim : Claim)
  /-- Drops the contents of a byte facet. -/
  | unload (facet : ByteFacet) (ids : List ItemId)
  /-- Claims metadata. -/
  | claimRecords (ids : List ItemId)
  /-- Stores the records of a claim, and gives up what is left of it. -/
  | settleRecords (claimed : List ItemId) (records : List (Artifact × Metadata))
  /-- Gives up claimed metadata. -/
  | giveUpRecords (ids : List ItemId)
  /-- Applies an update to metadata. -/
  | amendRecords (update : Metadata) (ids : List ItemId)
  /-- Selects or deselects entries, or all. -/
  | mark (ids : Option (List ItemId)) (value : Bool)
  /-- Puts a request into a state. -/
  | moveRequest (kind : Request) (state : RequestStatus)
  /-- Starts a request on the selection. -/
  | beginOnSelection (kind : Request)
  /-- Sets or clears the addresses of a video. -/
  | setVideo (id : ItemId) (urls : Option VideoLinks)
  /-- Sets the search text and its menu. -/
  | setSearch (search : String) (menu : Menu)
  /-- Sets the completions. -/
  | setCompletions (completions : List String)
  /-- Opens or closes the edit dialog. -/
  | setDialog (isOpen : Bool)

namespace Grid

/-- The grid after an action. -/
def act (grid : Grid) : GridAction → Grid
  | .add refs => (grid.addAll refs).2
  | .discard ids => (grid.discard ids).2
  | .clear keepQuery => (grid.clear keepQuery).2
  | .openQuery queries page => (grid.openQuery queries page).2
  | .askFurther page => ((grid.askFurther? page).map (·.2)).getD grid
  | .mergePage epoch page => (grid.mergePage epoch page).2
  | .withdrawPage epoch => (grid.withdrawPage? epoch).getD grid
  | .claim facet ids => (grid.claimAll facet ids).2
  | .fill facet claim handle =>
    ((grid.fill? facet claim (fun place : Unit => (handle, place)) ()).map (·.1)).getD grid
  | .giveUp facet claim => (grid.giveUp? facet claim).getD grid
  | .unload facet ids => (grid.unload facet ids).2
  | .claimRecords ids => (grid.claimRecords ids).2
  | .settleRecords claimed records => (grid.settleRecords claimed records).2
  | .giveUpRecords ids => grid.giveUpRecords ids
  | .amendRecords update ids => (grid.amendRecords update ids).2
  | .mark ids value => (grid.mark ids value).2
  | .moveRequest kind state => (grid.moveRequest? kind state).getD grid
  | .beginOnSelection kind => ((grid.beginOnSelection? kind).map (·.2)).getD grid
  | .setVideo id urls => (grid.setVideo? id urls).getD grid
  | .setSearch search menu => (grid.setSearch? search menu).getD grid
  | .setCompletions completions => (grid.setCompletions? completions).getD grid
  | .setDialog isOpen => (grid.setDialog? isOpen).getD grid

/-- The grid after actions taken one after the other. -/
def run (grid : Grid) (actions : List GridAction) : Grid := actions.foldl act grid

/-- What every action keeps holds after every run. -/
theorem run_keeps {motive : Grid → Prop}
    (hstep : ∀ grid action, motive grid → motive (grid.act action)) {grid : Grid}
    (h : motive grid) (actions : List GridAction) : motive (grid.run actions) := by
  induction actions generalizing grid with
  | nil => exact h
  | cons action rest ih => exact ih (hstep grid action h)

end Grid

end MediaGrid
