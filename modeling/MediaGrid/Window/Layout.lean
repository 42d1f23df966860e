import MediaGrid.Window.Viewport

/-!
# Layouts

Where named items lie along the scrolling axis. An item without a place is never visible.
-/

namespace MediaGrid

/-- The places of named items. -/
structure Layout where
  /-- Each name with the stretch of its item; the first entry of a name counts. -/
  places : List (String × Bounds)

namespace Layout

/-- The layout without items. -/
def empty : Layout := ⟨[]⟩

/-- Places an item, wherever it was before. -/
def place (layout : Layout) (name : String) (stretch : Bounds) : Layout :=
  ⟨(name, stretch) :: layout.places⟩

/-- The stretch of the `index`-th of equally high rows. -/
def row (height : Float) (index : Nat) : Bounds :=
  ⟨index.toFloat * height, (index + 1).toFloat * height⟩

/-- The layout of rows of equal height, one for each item. -/
def rows (height : Float) (names : List String) : Layout :=
  names.zipIdx.foldl (fun layout (name, index) => layout.place name (row height index)) empty

/-- Whether an item is visible in the given bounds. -/
def shows (layout : Layout) (bounds : Bounds) (name : String) : Bool :=
  match layout.places.find? (·.1 == name) with
  | some (_, stretch) => bounds.meets stretch.start stretch.stop
  | none => false

end Layout

end MediaGrid
