import MediaGrid.Window.Viewport

/-!
# Visible windows

A window is an unbroken part of a sequence of items, the part that is visible. It is kept
up to date by dropping items that are no longer visible from its two ends and taking in
neighbours that have become visible; an empty window starts again at the first visible
item. Each change reports which items came into the window and which left it. The sequence
belongs to someone else and may have holes, which are never visible.
-/

namespace MediaGrid

/-- An item coming into a window or leaving it. -/
inductive Crossing (α : Type) where
  /-- The item came in. -/
  | entered (item : α)
  /-- The item left. -/
  | exited (item : α)
  deriving DecidableEq, Repr

/-- An unbroken part of a sequence. -/
structure Window (α : Type) where
  /-- The items of the part. -/
  items : List α
  /-- The index of its first item in the sequence. -/
  start : Nat
  deriving DecidableEq, Repr

/-- The visible items at the front of a list, up to the first hole. -/
def visibleRun (visible : α → Bool) : List (Option α) → List α
  | some item :: rest => if visible item then item :: visibleRun visible rest else []
  | _ => []

/-- The first visible item of a list with its index. -/
def firstVisible? (visible : α → Bool) : List (Option α) → Option (Nat × α)
  | [] => none
  | some item :: rest =>
    if visible item then some (0, item)
    else (firstVisible? visible rest).map fun (index, item) => (index + 1, item)
  | none :: rest => (firstVisible? visible rest).map fun (index, item) => (index + 1, item)

namespace Window

/-- The window without items. -/
def empty : Window α := ⟨[], 0⟩

/-- Drops the invisible items at the front and then those at the back, and reports them. -/
def trim (visible : α → Bool) (window : Window α) : Window α × List (Crossing α) :=
  let front := window.items.takeWhile fun item => !visible item
  let rest := (window.items.dropWhile fun item => !visible item).reverse
  let back := rest.takeWhile fun item => !visible item
  let kept := (rest.dropWhile fun item => !visible item).reverse
  (⟨kept, if kept.isEmpty then 0 else window.start + front.length⟩, (front ++ back).map .exited)

/-- Takes in the visible neighbours behind the window and then those before it, each side up
to the first that is not visible, and reports them from the inside out. -/
def extend (visible : α → Bool) (sequence : List (Option α)) (window : Window α) :
    Window α × List (Crossing α) :=
  let after := visibleRun visible (sequence.drop (window.start + window.items.length))
  let before :=
    if window.start ≤ sequence.length then visibleRun visible (sequence.take window.start).reverse
    else []
  (⟨before.reverse ++ window.items ++ after, window.start - before.length⟩,
    (after ++ before).map .entered)

/-- The window around the first visible item, and the report of its items. -/
def seed (visible : α → Bool) (sequence : List (Option α)) : Window α × List (Crossing α) :=
  match firstVisible? visible sequence with
  | none => (empty, [])
  | some (index, item) =>
    let (window, crossings) := extend visible sequence ⟨[item], index⟩
    (window, .entered item :: crossings)

/-- Brings a window up to date after scrolling, resizing, appending, or prepending that was
reported. -/
def follow (visible : α → Bool) (sequence : List (Option α)) (window : Window α) :
    Window α × List (Crossing α) :=
  let (trimmed, exits) := window.trim visible
  let (extended, entries) :=
    if trimmed.items.isEmpty then seed visible sequence else trimmed.extend visible sequence
  (extended, exits ++ entries)

/-- The items that crossings report as coming in. -/
def enteredOf (crossings : List (Crossing α)) : List α :=
  crossings.filterMap fun
    | .entered item => some item
    | .exited _ => none

/-- The items that crossings report as leaving. -/
def exitedOf (crossings : List (Crossing α)) : List α :=
  crossings.filterMap fun
    | .entered _ => none
    | .exited item => some item

/-- Builds the window anew after any other change of the sequence. Items that are in the
window before and after are not reported. -/
def rebuild [BEq α] (visible : α → Bool) (sequence : List (Option α)) (window : Window α) :
    Window α × List (Crossing α) :=
  let (rebuilt, crossings) := seed visible sequence
  let exits := window.items.filter fun item => !rebuilt.items.contains item
  let entries := (enteredOf crossings).filter fun item => !window.items.contains item
  (rebuilt, exits.map .exited ++ entries.map .entered)

/-- Accounts for `count` items that were put in front of the sequence. -/
def shifted (window : Window α) (count : Nat) : Window α :=
  { window with start := window.start + count }

end Window

/-- A window with the viewport that decides what is visible. -/
structure ScrollView (α : Type) where
  /-- The visible window. -/
  window : Window α
  /-- Where the sequence is looked at. -/
  viewport : Viewport
  /-- How much of the viewport's extent is added to both its ends. -/
  ratio : Float

namespace ScrollView

/-- The ratio used where none is given. -/
def standardRatio : Float := 0.5

/-- A view whose window is empty. -/
def ofViewport (viewport : Viewport) (ratio : Float) : ScrollView α :=
  ⟨.empty, viewport, ratio⟩

/-- The stretch that counts as visible. -/
def bounds (view : ScrollView α) : Bounds := view.viewport.reach view.ratio

/-- Brings the window up to date; `shows` tells whether an item is visible in given bounds. -/
def follow (view : ScrollView α) (sequence : List (Option α)) (shows : Bounds → α → Bool) :
    ScrollView α × List (Crossing α) :=
  let (window, crossings) := view.window.follow (shows view.bounds) sequence
  ({ view with window := window }, crossings)

/-- Builds the window anew. -/
def rebuild [BEq α] (view : ScrollView α) (sequence : List (Option α))
    (shows : Bounds → α → Bool) : ScrollView α × List (Crossing α) :=
  let (window, crossings) := view.window.rebuild (shows view.bounds) sequence
  ({ view with window := window }, crossings)

end ScrollView

end MediaGrid
