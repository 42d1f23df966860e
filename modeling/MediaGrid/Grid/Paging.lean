import MediaGrid.Grid.Basic

/-!
# Paging through a query

A query is begun at a page and continued at higher ones. Every request for a page carries
the epoch in which it was made, and its page is merged only while that epoch lasts. A page
may be asked for when it lies beyond the last merged page and beyond every page asked for.
-/

namespace MediaGrid

/-- The query after a page was merged into the view. -/
def PagedQuery.merged (active : PagedQuery) (page : Page) : PagedQuery :=
  let last := max active.page page.number
  { active with page := last, requested := max active.requested last, hasMore := !page.isLast }

namespace Grid

/-- Makes `queries` the active query, in a new epoch, and returns the epoch. -/
def openQuery (grid : Grid) (queries : List Query) (page : Nat) : Nat × Grid :=
  (grid.epoch + 1,
    { grid with
      epoch := grid.epoch + 1
      active := some ⟨queries, page, false, page⟩ })

/-- Asks for a further page of the active query. Returns the queries and the epoch, or nothing
where no pages remain or the page was merged or asked for already. -/
def askFurther? (grid : Grid) (page : Nat) : Option ((List Query × Nat) × Grid) := do
  let active ← grid.active
  if !active.hasMore || page ≤ active.page || page ≤ active.requested then none
  else
    return ((active.queries, grid.epoch),
      { grid with active := some { active with requested := page } })

/-- A further page is asked for where pages remain and it lies beyond every page merged or asked
for. -/
theorem askFurther?_eq_some_iff {grid grid' : Grid} {page : Nat} {asked : List Query × Nat} :
    grid.askFurther? page = some (asked, grid') ↔ ∃ active, grid.active = some active ∧
      active.hasMore = true ∧ active.page < page ∧ active.requested < page ∧
      asked = (active.queries, grid.epoch) ∧
      grid' = { grid with active := some { active with requested := page } } := by
  simp only [askFurther?, Option.bind_eq_bind, Option.bind_eq_some_iff]
  refine exists_congr fun active => and_congr_right fun _ => ?_
  rw [Option.ite_none_left_eq_some, Bool.or_eq_true, Bool.or_eq_true, Bool.not_eq_true',
    decide_eq_true_eq, decide_eq_true_eq, not_or, not_or, Bool.not_eq_false, Nat.not_le,
    Nat.not_le, and_assoc, and_assoc]
  refine and_congr_right fun _ => and_congr_right fun _ => and_congr_right fun _ => ?_
  exact ⟨fun h => by cases h; exact ⟨rfl, rfl⟩, fun h => by rw [h.1, h.2]; rfl⟩

/-- What merging a page brought. -/
structure Merged where
  /-- The ids that were new. -/
  added : List ItemId
  /-- The last page merged so far. -/
  page : Nat
  /-- Whether pages remain. -/
  hasMore : Bool
  deriving DecidableEq, Repr

/-- Merges a page that was asked for in the given epoch. Nothing happens, and nothing is
returned, when the epoch is over. The artifacts are added before the query is looked at, so
without an active query they would stay, and nothing would be returned. -/
def mergePage (grid : Grid) (epoch : Nat) (page : Page) : Option Merged × Grid :=
  if epoch ≠ grid.epoch then (none, grid)
  else
    let (added, grid) := grid.addAll page.refs
    match grid.active with
    | none => (none, grid)
    | some active =>
      let active := active.merged page
      (some ⟨added, active.page, active.hasMore⟩, { grid with active := some active })

/-- Takes back a request for a page that failed, so that the page may be asked for again.
Nothing happens, and nothing is returned, when the epoch is over. -/
def withdrawPage? (grid : Grid) (epoch : Nat) : Option Grid :=
  if epoch ≠ grid.epoch then none
  else
    some { grid with
      active := grid.active.map fun active => { active with requested := active.page } }

/-- What withdrawing a request does where it does something: only the query changes. -/
theorem withdrawPage?_eq_some {grid grid' : Grid} {epoch : Nat}
    (h : grid.withdrawPage? epoch = some grid') :
    epoch = grid.epoch ∧ { grid with
      active := grid.active.map fun active => { active with requested := active.page } } =
        grid' := by
  simpa only [withdrawPage?, ne_eq, ite_not, Option.ite_none_right_eq_some,
    Option.some.injEq] using h

end Grid

end MediaGrid
