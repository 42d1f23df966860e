/-!
# Viewports

Where a scrolled list is looked at, and which stretch of it counts as visible: the
viewport itself with a buffer at both ends.
-/

namespace MediaGrid

/-- Scroll position and extent along the scrolling axis. -/
structure Viewport where
  /-- Where the viewport begins. -/
  offset : Float
  /-- How long it is. -/
  extent : Float

/-- A stretch of the scrolling axis. -/
structure Bounds where
  /-- Where it begins. -/
  start : Float
  /-- Where it ends. -/
  stop : Float

/-- The viewport, made longer at both ends by `ratio` times its extent. -/
def Viewport.reach (viewport : Viewport) (ratio : Float) : Bounds :=
  let margin := viewport.extent * ratio
  ⟨viewport.offset - margin, viewport.offset + viewport.extent + margin⟩

/-- Whether the stretch from `start` up to `stop` overlaps the bounds. -/
def Bounds.meets (bounds : Bounds) (start stop : Float) : Bool :=
  start < bounds.stop && stop > bounds.start

end MediaGrid
