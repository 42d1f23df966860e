import MediaGrid.Grid.Bytes
import MediaGrid.Grid.Choice
import MediaGrid.Grid.Paging
import MediaGrid.Grid.Records

/-!
# What the operations on entries leave alone

Loading, describing, selecting and showing a video change one part of some entries each. A
part is named by a function that blanks it out; two grids are the same up to that part when
their entries agree after blanking and everything else is equal. What does not look at the
part is then the same in both grids. Adding and dropping entries is not covered here.
-/

namespace MediaGrid

namespace Entry

/-- The entry as if a byte facet had never been asked for. -/
def withoutSlot (facet : ByteFacet) (entry : Entry) : Entry := entry.setSlot facet .empty

/-- The entry as if its metadata had never been asked for. -/
def withoutMetadata (entry : Entry) : Entry := { entry with metadata := .empty }

/-- The entry as if it had never been selected. -/
def withoutMark (entry : Entry) : Entry := { entry with selected := false }

/-- The entry as if its video had never been shown. -/
def withoutVideo (entry : Entry) : Entry := { entry with video := none }

/-- A slot that was set is found again, and the other slot is left alone. -/
theorem slot_setSlot (entry : Entry) (facet other : ByteFacet) (slot : ByteSlot) :
    (entry.setSlot facet slot).slot other = if other = facet then slot else entry.slot other := by
  cases facet <;> cases other <;> rfl

@[simp]
theorem ref_setSlot (entry : Entry) (facet : ByteFacet) (slot : ByteSlot) :
    (entry.setSlot facet slot).ref = entry.ref := by cases facet <;> rfl

@[simp]
theorem metadata_setSlot (entry : Entry) (facet : ByteFacet) (slot : ByteSlot) :
    (entry.setSlot facet slot).metadata = entry.metadata := by cases facet <;> rfl

@[simp]
theorem video_setSlot (entry : Entry) (facet : ByteFacet) (slot : ByteSlot) :
    (entry.setSlot facet slot).video = entry.video := by cases facet <;> rfl

@[simp]
theorem selected_setSlot (entry : Entry) (facet : ByteFacet) (slot : ByteSlot) :
    (entry.setSlot facet slot).selected = entry.selected := by cases facet <;> rfl

/-- Blanking a slot forgets what it was set to. -/
theorem withoutSlot_setSlot (entry : Entry) (facet : ByteFacet) (slot : ByteSlot) :
    (entry.setSlot facet slot).withoutSlot facet = entry.withoutSlot facet := by
  cases facet <;> rfl

end Entry

namespace Table

variable {κ α β : Type} [DecidableEq κ]

/-- A view of the rows that does not see a change is the same after it. -/
theorem map_rows_modify {table : Table κ α} {key : κ} {change : α → α} {view : α → β}
    (h : ∀ value, view (change value) = view value) :
    (table.modify key change).rows.map (fun row => (row.1, view row.2)) =
      table.rows.map fun row => (row.1, view row.2) := by
  simp only [modify, modifyRows, List.map_map]
  apply List.map_congr_left
  intro row _
  simp only [Function.comp_apply]
  split
  · rw [h]
  · rfl

/-- A look-up only depends on the rows as far as they are looked at. -/
theorem find?_map_eq (table : Table κ α) (view : α → β) (key : κ) :
    (table.find? key).map view =
      ((table.rows.map fun row => (row.1, view row.2)).find? (·.1 == key)).map (·.2) := by
  rw [find?, List.find?_map, Option.map_map, Option.map_map]
  rfl

end Table

namespace Grid

/-- The grids differ at most in what `blank` hides of each entry. -/
structure SameUpTo (blank : Entry → Entry) (before after : Grid) : Prop where
  /-- The entries agree after blanking. -/
  rows : after.entries.rows.map (fun row => (row.1, blank row.2)) =
    before.entries.rows.map fun row => (row.1, blank row.2)
  /-- Everything but the entries is equal. -/
  rest : after = { before with entries := after.entries }

namespace SameUpTo

variable {blank : Entry → Entry} {before middle after : Grid} {α : Type}

protected theorem refl (grid : Grid) : SameUpTo blank grid grid := ⟨rfl, rfl⟩

protected theorem trans (h : SameUpTo blank before middle) (h' : SameUpTo blank middle after) :
    SameUpTo blank before after := by
  refine ⟨h'.rows.trans h.rows, ?_⟩
  have hr := h'.rest
  rw [h.rest] at hr
  exact hr

/-- A change of an entry that is blanked out leaves the rest alone. -/
theorem modify (grid : Grid) (id : ItemId) {change : Entry → Entry}
    (h : ∀ entry, blank (change entry) = blank entry) :
    SameUpTo blank grid (grid.modify id change) :=
  ⟨Table.map_rows_modify h, rfl⟩

/-- The last ticket may be replaced on both sides. -/
theorem withTicket (h : SameUpTo blank before after) (ticket : Nat) :
    SameUpTo blank { before with lastTicket := ticket } { after with lastTicket := ticket } :=
  ⟨h.rows, by rw [h.rest]⟩

theorem ids_eq (h : SameUpTo blank before after) : after.ids = before.ids := by
  rw [h.rest]

theorem active_eq (h : SameUpTo blank before after) : after.active = before.active := by
  rw [h.rest]

theorem selectionCount_eq (h : SameUpTo blank before after) :
    after.selectionCount = before.selectionCount := by
  rw [h.rest]

theorem requests_eq (h : SameUpTo blank before after) : after.requests = before.requests := by
  rw [h.rest]

theorem epoch_eq (h : SameUpTo blank before after) : after.epoch = before.epoch := by
  rw [h.rest]

theorem lastTicket_eq (h : SameUpTo blank before after) :
    after.lastTicket = before.lastTicket := by
  rw [h.rest]

/-- What does not look at the blanked part sees the same rows. -/
theorem map_rows (h : SameUpTo blank before after) (view : Entry → α)
    (hv : ∀ entry, view (blank entry) = view entry) :
    after.entries.rows.map (fun row => (row.1, view row.2)) =
      before.entries.rows.map fun row => (row.1, view row.2) := by
  have hm := congrArg (List.map fun row : ItemId × Entry => (row.1, view row.2)) h.rows
  simpa [List.map_map, Function.comp_def, hv] using hm

/-- What does not look at the blanked part sees the same entry. -/
theorem find?_map (h : SameUpTo blank before after) (view : Entry → α)
    (hv : ∀ entry, view (blank entry) = view entry) (id : ItemId) :
    (after.find? id).map view = (before.find? id).map view := by
  rw [Grid.find?, Grid.find?, Table.find?_map_eq, Table.find?_map_eq, h.map_rows view hv]

/-- An entry comes from one that looks the same. -/
theorem exists_before (h : SameUpTo blank before after) (view : Entry → α)
    (hv : ∀ entry, view (blank entry) = view entry) {id : ItemId} {entry : Entry}
    (he : after.find? id = some entry) :
    ∃ old, before.find? id = some old ∧ view old = view entry := by
  have hm := h.find?_map view hv id
  rw [he, Option.map_some] at hm
  exact Option.map_eq_some_iff.mp hm.symm

/-- The same ids have entries. -/
theorem contains_eq (h : SameUpTo blank before after) (id : ItemId) :
    after.contains id = before.contains id := by
  have hv := congrArg Option.isSome (h.find?_map (fun _ => ()) (fun _ => rfl) id)
  simpa [Grid.contains, Table.contains_eq_isSome, Grid.find?] using hv

end SameUpTo

/-! ## The operations -/

/-- Claiming a facet changes its slots, and tickets are given out. -/
theorem sameUpTo_claimAll (grid : Grid) (facet : ByteFacet) (ids : List ItemId) :
    SameUpTo (Entry.withoutSlot facet) grid
      { (grid.claimAll facet ids).2 with lastTicket := grid.lastTicket } := by
  induction ids generalizing grid with
  | nil => exact .refl grid
  | cons id rest ih =>
    rw [claimAll]
    cases hone : grid.claimOne? facet id with
    | none => exact ih grid
    | some claimed =>
      obtain ⟨claim, grid'⟩ := claimed
      obtain ⟨entry, hentry, hempty, hclaim, hgrid⟩ := claimOne?_eq_some hone
      have hstep : SameUpTo (Entry.withoutSlot facet) grid
          { grid' with lastTicket := grid.lastTicket } := by
        rw [hgrid]
        exact .modify grid id fun entry => entry.withoutSlot_setSlot _ _
      exact hstep.trans ((ih grid').withTicket grid.lastTicket)

/-- Storing a content changes the slot of its claim. -/
theorem sameUpTo_fill {σ : Type} {grid grid' : Grid} {facet : ByteFacet} {claim : Claim}
    {create : σ → Handle × σ} {place place' : σ}
    (h : grid.fill? facet claim create place = some (grid', place')) :
    SameUpTo (Entry.withoutSlot facet) grid grid' := by
  simp only [fill?] at h
  split at h
  · obtain ⟨rfl, -⟩ := Prod.mk.inj (Option.some.inj h)
    exact .modify grid claim.id fun entry => entry.withoutSlot_setSlot _ _
  · cases h

/-- Giving a claim up changes its slot. -/
theorem sameUpTo_giveUp {grid grid' : Grid} {facet : ByteFacet} {claim : Claim}
    (h : grid.giveUp? facet claim = some grid') :
    SameUpTo (Entry.withoutSlot facet) grid grid' := by
  simp only [giveUp?] at h
  split at h
  · cases h
    exact .modify grid claim.id fun entry => entry.withoutSlot_setSlot _ _
  · cases h

/-- Dropping contents changes the slots of their facet. -/
theorem sameUpTo_unload (grid : Grid) (facet : ByteFacet) (ids : List ItemId) :
    SameUpTo (Entry.withoutSlot facet) grid (grid.unload facet ids).2 := by
  induction ids generalizing grid with
  | nil => exact .refl grid
  | cons id rest ih =>
    rw [unload]
    split
    · exact ih grid
    · exact (SameUpTo.modify grid id fun entry => entry.withoutSlot_setSlot _ _).trans (ih _)

/-- Setting a metadata slot changes nothing else. -/
theorem sameUpTo_setMetadata (grid : Grid) (id : ItemId) (slot : MetadataSlot) :
    SameUpTo Entry.withoutMetadata grid (grid.setMetadata id slot) :=
  .modify grid id fun _ => rfl

theorem sameUpTo_claimRecords (grid : Grid) (ids : List ItemId) :
    SameUpTo Entry.withoutMetadata grid (grid.claimRecords ids).2 := by
  induction ids generalizing grid with
  | nil => exact .refl grid
  | cons id rest ih =>
    rw [claimRecords]
    split
    · exact ih grid
    · split
      · exact (sameUpTo_setMetadata grid id .pending).trans (ih _)
      · exact ih grid

theorem sameUpTo_storeRecords (grid : Grid) (records : List (Artifact × Metadata)) :
    SameUpTo Entry.withoutMetadata grid (grid.storeRecords records).2 := by
  induction records generalizing grid with
  | nil => exact .refl grid
  | cons row rest ih =>
    rw [storeRecords]
    split
    · exact (sameUpTo_setMetadata grid _ _).trans (ih _)
    · exact ih grid

theorem sameUpTo_giveUpRecords (grid : Grid) (ids : List ItemId) :
    SameUpTo Entry.withoutMetadata grid (grid.giveUpRecords ids) := by
  induction ids generalizing grid with
  | nil => exact .refl grid
  | cons id rest ih =>
    rw [giveUpRecords, List.foldl_cons]
    split
    · exact (sameUpTo_setMetadata grid id .empty).trans (ih _)
    · exact ih grid

theorem sameUpTo_settleRecords (grid : Grid) (claimed : List ItemId)
    (records : List (Artifact × Metadata)) :
    SameUpTo Entry.withoutMetadata grid (grid.settleRecords claimed records).2 :=
  (sameUpTo_storeRecords grid records).trans (sameUpTo_giveUpRecords _ claimed)

theorem sameUpTo_amendRecords (grid : Grid) (update : Metadata) (ids : List ItemId) :
    SameUpTo Entry.withoutMetadata grid (grid.amendRecords update ids).2 := by
  induction ids generalizing grid with
  | nil => exact .refl grid
  | cons id rest ih =>
    rw [amendRecords]
    split
    · exact (sameUpTo_setMetadata grid id _).trans (ih _)
    · exact ih grid

/-- Flagging entries changes their flags; the count of the selection is left to the caller. -/
theorem sameUpTo_flag (grid : Grid) (value : Bool) (ids : List ItemId) :
    SameUpTo Entry.withoutMark grid (grid.flag value ids).2 := by
  induction ids generalizing grid with
  | nil => exact .refl grid
  | cons id rest ih =>
    rw [flag]
    split
    · exact ih grid
    · split
      · exact ih grid
      · have hstep : SameUpTo Entry.withoutMark grid
            (grid.modify id fun entry => { entry with selected := value }) :=
          .modify grid id fun _ => rfl
        exact hstep.trans (ih _)

/-- Where no flag changed the grid is as before. -/
theorem flag_of_none {grid : Grid} {value : Bool} {ids : List ItemId}
    (h : (grid.flag value ids).1 = []) : (grid.flag value ids).2 = grid := by
  induction ids with
  | nil => rfl
  | cons id rest ih =>
    rw [flag] at h ⊢
    split at h
    · exact ih h
    · split at h
      · rename_i hsame
        rw [if_pos hsame]
        exact ih h
      · cases h

/-- Selecting what is selected does nothing. -/
theorem mark_of_none {grid : Grid} {value : Bool} {ids : Option (List ItemId)}
    (h : (grid.flag value (ids.getD grid.ids)).1 = []) : (grid.mark ids value).2 = grid := by
  simp only [mark, h, List.isEmpty_nil, if_true]
  exact flag_of_none h

/-- A selection that changes is counted anew. -/
theorem mark_of_some {grid : Grid} {value : Bool} {ids : Option (List ItemId)}
    (h : (grid.flag value (ids.getD grid.ids)).1 ≠ []) :
    (grid.mark ids value).2 = (grid.flag value (ids.getD grid.ids)).2.recount := by
  simp only [mark, List.isEmpty_iff, if_neg h]

/-- Selecting and deselecting changes the entries and the count of the selection at most. -/
theorem exists_mark (grid : Grid) (ids : Option (List ItemId)) (value : Bool) :
    ∃ entries count, (grid.mark ids value).2 =
      { grid with entries := entries, selectionCount := count } := by
  by_cases hnone : (grid.flag value (ids.getD grid.ids)).1 = []
  · exact ⟨grid.entries, grid.selectionCount, mark_of_none hnone⟩
  · have hflagged := (sameUpTo_flag grid value (ids.getD grid.ids)).rest
    refine ⟨(grid.flag value (ids.getD grid.ids)).2.entries,
      (grid.flag value (ids.getD grid.ids)).2.countSelected, ?_⟩
    rw [mark_of_some hnone]
    exact congrArg recount hflagged

/-- Showing or hiding a video changes its addresses. -/
theorem sameUpTo_setVideo {grid grid' : Grid} {id : ItemId} {urls : Option VideoLinks}
    (h : grid.setVideo? id urls = some grid') : SameUpTo Entry.withoutVideo grid grid' := by
  simp only [setVideo?, Option.bind_eq_bind, Option.bind_eq_some_iff] at h
  obtain ⟨entry, -, h⟩ := h
  split at h
  · cases h
  · cases h
    exact .modify grid id fun _ => rfl

end Grid

end MediaGrid
