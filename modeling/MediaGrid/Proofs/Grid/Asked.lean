import MediaGrid.Proofs.Grid.Frame
import MediaGrid.Proofs.Grid.Membership

/-!
# Metadata that is being asked for

Which operations of the grid make metadata be asked for, and which end it. Claiming metadata
makes it be asked for, and settling or giving up a claim ends it for every id of the claim,
whoever claimed the id last. No other operation makes metadata be asked for.
-/

namespace MediaGrid.Grid

/-- Whether the metadata of an id is being asked for. -/
def asks (grid : Grid) (id : ItemId) : Prop := grid.metadata? id = some .pending

variable {grid before after : Grid} {id : ItemId}

/-- What does not concern metadata leaves it alone. -/
theorem SameUpTo.metadata?_eq {blank : Entry → Entry} (h : SameUpTo blank before after)
    (hv : ∀ entry, (blank entry).metadata = entry.metadata) (id : ItemId) :
    after.metadata? id = before.metadata? id :=
  h.find?_map (·.metadata) hv id

/-- A metadata slot that was set is found again, and every other one is left alone. -/
theorem metadata?_setMetadata (grid : Grid) (head : ItemId) (slot : MetadataSlot)
    (id : ItemId) :
    (grid.setMetadata head slot).metadata? id =
      if id = head then (grid.metadata? id).map fun _ => slot else grid.metadata? id := by
  rw [metadata?, find?, setMetadata, modify, Table.find?_modify, metadata?, find?]
  split
  · rw [Option.map_map, Option.map_map]
    rfl
  · rfl

/-- Setting metadata to anything else ends that it is asked for. -/
theorem asks_setMetadata {head : ItemId} {slot : MetadataSlot} (hslot : slot ≠ .pending)
    (h : (grid.setMetadata head slot).asks id) : grid.asks id ∧ id ≠ head := by
  rw [asks, metadata?_setMetadata] at h
  split at h
  · obtain ⟨old, -, he⟩ := Option.map_eq_some_iff.mp h
    exact absurd he hslot
  · rename_i hne
    exact ⟨h, hne⟩

/-- Nothing is asked for an entry that is new. -/
theorem asks_addAll {refs : List Artifact} (h : (grid.addAll refs).2.asks id) :
    grid.asks id := by
  rw [asks, metadata?, find?_addAll] at h
  cases hentry : grid.find? id with
  | some entry =>
    rw [hentry] at h
    rw [asks, metadata?, hentry]
    exact h
  | none =>
    rw [hentry, Option.none_or, Option.map_map] at h
    obtain ⟨ref, -, he⟩ := Option.map_eq_some_iff.mp h
    cases he

theorem asks_discard {ids : List ItemId} (h : (grid.discard ids).2.asks id) : grid.asks id := by
  rw [asks, metadata?, find?_discard] at h
  split at h
  · cases h
  · exact h

theorem not_asks_clear (grid : Grid) (keepQuery : Bool) (id : ItemId) :
    ¬(grid.clear keepQuery).2.asks id := fun h => by cases h

/-- Metadata that is asked for after a claim was so before, or belongs to the claim. -/
theorem asks_claimRecords {ids : List ItemId} (h : (grid.claimRecords ids).2.asks id) :
    grid.asks id ∨ id ∈ (grid.claimRecords ids).1.map (·.1) := by
  induction ids generalizing grid with
  | nil => exact Or.inl h
  | cons head rest ih =>
    rw [claimRecords] at h ⊢
    split at h
    · exact ih h
    · split at h
      · rename_i hempty
        rw [if_pos hempty, List.map_cons, List.mem_cons]
        rcases ih h with hasks | hm
        · rw [asks, metadata?_setMetadata] at hasks
          split at hasks
          · rename_i hid
            exact Or.inr (Or.inl hid)
          · exact Or.inl hasks
        · exact Or.inr (Or.inr hm)
      · rename_i hempty
        rw [if_neg hempty]
        exact ih h

theorem asks_storeRecords {records : List (Artifact × Metadata)}
    (h : (grid.storeRecords records).2.asks id) : grid.asks id := by
  induction records generalizing grid with
  | nil => exact h
  | cons row rest ih =>
    rw [storeRecords] at h
    split at h
    · exact (asks_setMetadata (fun he => by cases he) (ih h)).1
    · exact ih h

/-- Metadata that was given up is not asked for. -/
theorem asks_giveUpRecords {ids : List ItemId} (h : (grid.giveUpRecords ids).asks id) :
    grid.asks id ∧ id ∉ ids := by
  induction ids generalizing grid with
  | nil => exact ⟨h, List.not_mem_nil⟩
  | cons head rest ih =>
    rw [giveUpRecords, List.foldl_cons] at h
    obtain ⟨hasks, hrest⟩ := ih h
    split at hasks
    · obtain ⟨hasks, hne⟩ := asks_setMetadata (fun he => by cases he) hasks
      exact ⟨hasks, fun hm => (List.mem_cons.mp hm).elim hne hrest⟩
    · rename_i hhead
      refine ⟨hasks, fun hm => ?_⟩
      rcases List.mem_cons.mp hm with rfl | hm
      · exact hhead hasks
      · exact hrest hm

/-- Once a claim of metadata is settled, none of its ids is asked for. -/
theorem asks_settleRecords {claimed : List ItemId} {records : List (Artifact × Metadata)}
    (h : (grid.settleRecords claimed records).2.asks id) : grid.asks id ∧ id ∉ claimed := by
  obtain ⟨hasks, hout⟩ := asks_giveUpRecords h
  exact ⟨asks_storeRecords hasks, hout⟩

theorem asks_amendRecords {update : Metadata} {ids : List ItemId}
    (h : (grid.amendRecords update ids).2.asks id) : grid.asks id := by
  induction ids generalizing grid with
  | nil => exact h
  | cons head rest ih =>
    rw [amendRecords] at h
    split at h
    · exact (asks_setMetadata (fun he => by cases he) (ih h)).1
    · exact ih h

end MediaGrid.Grid
