import MediaGrid.Grid.Basic

/-!
# Selection, requests, search and dialog

The operations that change what the user has chosen: which entries are selected, what the
selection is used for, which videos are shown, what is searched for, and whether the edit
dialog is open. Operations on single values return nothing when they change nothing.
-/

namespace MediaGrid.Grid

/-- Sets the flag of the entries of the given ids, and returns the ids whose flag changed. -/
def flag (grid : Grid) (value : Bool) : List ItemId → List ItemId × Grid
  | [] => ([], grid)
  | id :: rest =>
    match grid.find? id with
    | none => grid.flag value rest
    | some entry =>
      if entry.selected = value then grid.flag value rest
      else
        let (changed, grid) :=
          (grid.modify id fun entry => { entry with selected := value }).flag value rest
        (id :: changed, grid)

/-- Selects or deselects the entries of the given ids, or all, and returns the ids that
changed. -/
def mark (grid : Grid) (ids : Option (List ItemId)) (value : Bool) :
    List ItemId × Grid :=
  let (changed, grid) := grid.flag value (ids.getD grid.ids)
  (changed, if changed.isEmpty then grid else grid.recount)

/-- Puts a request into another state. -/
def moveRequest? (grid : Grid) (kind : Request) (state : RequestStatus) : Option Grid :=
  if grid.requests.get kind = state then none
  else some { grid with requests := grid.requests.set kind state }

/-- Starts a request on the selection, and returns the selected artifacts in view order.
Nothing happens, and nothing is returned, while such a request runs or nothing is
selected. -/
def beginOnSelection? (grid : Grid) (kind : Request) :
    Option (List (ItemId × Artifact) × Grid) :=
  if grid.requests.get kind = .loading then none
  else
    let targets := grid.selected.map fun (id, entry) => (id, entry.ref)
    if targets.isEmpty then none
    else some (targets, { grid with requests := grid.requests.set kind .loading })

/-- Sets or clears the addresses of a video. Images never have any. -/
def setVideo? (grid : Grid) (id : ItemId) (urls : Option VideoLinks) : Option Grid := do
  let entry ← grid.find? id
  if entry.ref.kind ≠ .video ∨ entry.video = urls then none
  else some (grid.modify id fun entry => { entry with video := urls })

/-- Sets the search text and its menu. Completions belong to one text and are dropped with
it. -/
def setSearch? (grid : Grid) (search : String) (menu : Menu) : Option Grid :=
  if grid.search = search ∧ grid.menu = menu then none
  else
    some { grid with
      search := search
      menu := menu
      completions := if grid.search = search then grid.completions else [] }

/-- Sets the completions. -/
def setCompletions? (grid : Grid) (completions : List String) : Option Grid :=
  if grid.completions = completions then none
  else some { grid with completions := completions }

/-- Opens or closes the edit dialog. -/
def setDialog? (grid : Grid) (isOpen : Bool) : Option Grid :=
  if grid.dialogOpen = isOpen then none
  else some { grid with dialogOpen := isOpen }

end MediaGrid.Grid
