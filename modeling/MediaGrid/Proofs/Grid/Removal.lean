import Mathlib.Data.List.Basic
import MediaGrid.Proofs.Grid.Consistency

/-!
# Removing entries

What removing entries by their ids takes out of the grid: those of the given ids that have an entry,
in the order given, with the handles of their loaded contents. All other entries are left alone and
keep their order. Which ids are given is no part of it, and neither is what happens to the contents.
-/

namespace MediaGrid.Grid

variable {grid : Grid} {ids : List ItemId} {head : ItemId}

/-- The handles of the contents that the entries of the given ids have loaded. -/
def handlesOf (grid : Grid) (ids : List ItemId) : List Handle :=
  ids.flatMap fun id => ((grid.find? id).map Entry.handles).getD []

/-- The handles of other ids are the same where an entry is erased. -/
theorem handlesOf_erase (h : head ∉ ids) :
    { grid with entries := grid.entries.erase head }.handlesOf ids = grid.handlesOf ids := by
  refine List.flatMap_congr fun id hm => ?_
  have hne : id ≠ head := fun he => h (he ▸ hm)
  rw [find?_erase, if_neg hne]

/-- Of different ids those are dropped that have an entry, in the order given. -/
theorem ids_dropEntries (h : ids.Nodup) :
    (grid.dropEntries ids).1.ids = ids.filter grid.contains := by
  induction ids generalizing grid with
  | nil => rfl
  | cons head rest ih =>
    obtain ⟨hhead, hrest⟩ := List.nodup_cons.mp h
    rw [dropEntries]
    cases hentry : grid.find? head with
    | none =>
      have hnot : ¬grid.contains head = true := by
        rw [contains_iff, hentry]
        simp
      rw [List.filter_cons_of_neg hnot]
      exact ih hrest
    | some entry =>
      rw [List.filter_cons_of_pos (contains_iff.mpr ⟨entry, hentry⟩)]
      refine congrArg (head :: ·) ((ih hrest).trans (List.filter_congr fun id hm => ?_))
      have hne : id ≠ head := fun he => hhead (he ▸ hm)
      rw [contains, contains, Table.contains_eq_isSome, Table.contains_eq_isSome, Table.find?_erase,
        if_neg hne]

/-- The handles of what was dropped are those it had loaded. -/
theorem handles_dropEntries (grid : Grid) (ids : List ItemId) :
    (grid.dropEntries ids).1.handles = grid.handlesOf (grid.dropEntries ids).1.ids := by
  induction ids generalizing grid with
  | nil => rfl
  | cons head rest ih =>
    rw [dropEntries]
    cases hentry : grid.find? head with
    | none => exact ih grid
    | some entry =>
      -- The dropped entry is not dropped again, so the others have the handles they had.
      have hout : head ∉
          ({ grid with entries := grid.entries.erase head }.dropEntries rest).1.ids := by
        rw [mem_ids_dropEntries, find?_erase, if_pos rfl]
        simp
      dsimp only
      rw [ih, handlesOf_erase hout]
      simp only [handlesOf, List.flatMap_cons, hentry, Option.map_some, Option.getD_some]

end MediaGrid.Grid
