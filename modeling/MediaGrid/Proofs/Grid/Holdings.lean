import MediaGrid.Proofs.Content.Shelf
import MediaGrid.Proofs.Grid.Slots

/-!
# The handles that the grid holds

A holding is a loaded slot with its handle. The holdings of a grid are listed entry by entry,
so what an operation adds or drops is seen as a permutation of lists: unloading, removing and
clearing return exactly the handles of the holdings that are gone, and a content that is
accepted adds one. The order of the list has no meaning.
-/

namespace MediaGrid

/-- A loaded slot with its handle. -/
structure Holding where
  /-- The entry. -/
  id : ItemId
  /-- The facet. -/
  facet : ByteFacet
  /-- The handle of the content. -/
  handle : Handle
  deriving DecidableEq, Repr

/-- The holding of a slot, if it is loaded. -/
def ByteSlot.holding (id : ItemId) (facet : ByteFacet) (slot : ByteSlot) : List Holding :=
  slot.handle?.toList.map fun handle => ⟨id, facet, handle⟩

/-- The holdings of an entry. -/
def Entry.holdings (id : ItemId) (entry : Entry) : List Holding :=
  entry.thumbnail.holding id .thumbnail ++ entry.image.holding id .full

/-- The holdings of the entries. -/
def Grid.holdings (grid : Grid) : List Holding :=
  grid.entries.rows.flatMap fun row => row.2.holdings row.1

/-! ## Holdings of one entry -/

theorem ByteSlot.mem_holding {id : ItemId} {facet : ByteFacet} {slot : ByteSlot}
    {holding : Holding} : holding ∈ slot.holding id facet ↔
      holding.id = id ∧ holding.facet = facet ∧ slot = .loaded holding.handle := by
  obtain ⟨key, other, handle⟩ := holding
  cases slot <;> simp [ByteSlot.holding, handle?, eq_comm]

theorem Entry.mem_holdings {id : ItemId} {entry : Entry} {holding : Holding} :
    holding ∈ entry.holdings id ↔
      holding.id = id ∧ entry.slot holding.facet = .loaded holding.handle := by
  obtain ⟨key, facet, handle⟩ := holding
  simp only [Entry.holdings, List.mem_append, ByteSlot.mem_holding]
  cases facet <;> simp [Entry.slot]

/-- The holdings of an entry are that of one slot and those it has without the slot. -/
theorem Entry.holdings_perm (id : ItemId) (entry : Entry) (facet : ByteFacet) :
    (entry.holdings id).Perm
      ((entry.slot facet).holding id facet ++ (entry.withoutSlot facet).holdings id) := by
  cases facet with
  | thumbnail => exact .refl _
  | full => simpa [Entry.holdings, Entry.slot, Entry.withoutSlot, Entry.setSlot,
      ByteSlot.holding, ByteSlot.handle?] using List.perm_append_comm

/-- The handles of an entry are those of its holdings. -/
theorem Entry.handles_eq (id : ItemId) (entry : Entry) :
    entry.handles = (entry.holdings id).map (·.handle) := by
  simp [Entry.handles, Entry.holdings, ByteSlot.holding, Function.comp_def]

namespace Grid

/-! ## Holdings of the grid -/

/-- The holdings are the loaded slots. -/
theorem mem_holdings {grid : Grid} {holding : Holding} :
    holding ∈ grid.holdings ↔ grid.slotAt holding.id holding.facet = .loaded holding.handle := by
  simp only [holdings, List.mem_flatMap, Entry.mem_holdings, Table.mem_rows_iff]
  constructor
  · rintro ⟨row, hrow, hid, hslot⟩
    rw [← hid] at hrow
    rw [slotAt_of_some hrow, hslot]
  · intro hslot
    obtain ⟨entry, hentry⟩ := exists_entry_of_slotAt (by rw [hslot]; exact ByteSlot.noConfusion)
    exact ⟨(holding.id, entry), hentry, rfl, (slotAt_of_some hentry _).symm.trans hslot⟩

theorem nodup_holdings (grid : Grid) : grid.holdings.Nodup := by
  refine List.nodup_flatMap.mpr ⟨fun row _ => ?_, ?_⟩
  · rcases row with ⟨id, entry⟩
    simp only [Entry.holdings, ByteSlot.holding]
    cases entry.thumbnail <;> cases entry.image <;> simp [ByteSlot.handle?]
  · refine (List.pairwise_map.mp grid.entries.distinct).imp fun hne => ?_
    intro holding ha hb
    exact hne ((Entry.mem_holdings.mp ha).1.symm.trans (Entry.mem_holdings.mp hb).1)

/-- Grids with the same loaded slots have the same holdings. -/
theorem holdings_perm_of_loaded {before after : Grid}
    (h : ∀ id facet handle,
      after.slotAt id facet = .loaded handle ↔ before.slotAt id facet = .loaded handle) :
    before.holdings.Perm after.holdings := by
  refine (List.perm_ext_iff_of_nodup (nodup_holdings _) (nodup_holdings _)).mpr fun holding => ?_
  rw [mem_holdings, mem_holdings, h]

/-- Setting a slot replaces its holding. -/
theorem holdings_setSlot {grid : Grid} {id : ItemId} {entry : Entry}
    (hentry : grid.find? id = some entry) (facet : ByteFacet) :
    ∃ rest, grid.holdings.Perm ((entry.slot facet).holding id facet ++ rest) ∧
      ∀ slot, (grid.modify id (·.setSlot facet slot)).holdings.Perm
        (slot.holding id facet ++ rest) := by
  refine ⟨(entry.withoutSlot facet).holdings id ++
    (grid.entries.erase id).rows.flatMap fun row => row.2.holdings row.1, ?_, fun slot => ?_⟩
  · rw [← List.append_assoc]
    exact ((Table.rows_perm_erase hentry).flatMap_right _).trans
      ((Entry.holdings_perm id entry facet).append_right _)
  · have hset : (grid.modify id (·.setSlot facet slot)).entries.find? id =
        some (entry.setSlot facet slot) := by
      rw [modify, Table.find?_modify, if_pos rfl, ← find?, hentry]
      rfl
    have hrows := (Table.rows_perm_erase hset).flatMap_right fun row => row.2.holdings row.1
    simp only [modify, Table.erase_modify] at hrows
    rw [← List.append_assoc]
    refine hrows.trans (.append_right _ ?_)
    have hslot := Entry.holdings_perm id (entry.setSlot facet slot) facet
    rw [Entry.slot_setSlot, if_pos rfl, Entry.withoutSlot_setSlot] at hslot
    exact hslot

/-! ## What the operations add and drop -/

/-- A content that is accepted becomes a holding. -/
theorem holdings_fill {σ : Type} {grid grid' : Grid} {facet : ByteFacet} {claim : Claim}
    {create : σ → Handle × σ} {place place' : σ}
    (h : grid.fill? facet claim create place = some (grid', place')) :
    grid'.holdings.Perm (⟨claim.id, facet, (create place).1⟩ :: grid.holdings) := by
  obtain ⟨hawaits, -, rfl⟩ := fill?_eq_some h
  have hpending := awaits_iff.mp hawaits
  obtain ⟨entry, hentry⟩ :=
    exists_entry_of_slotAt (by rw [hpending]; exact ByteSlot.noConfusion)
  rw [slotAt_of_some hentry] at hpending
  obtain ⟨rest, hbefore, hafter⟩ := holdings_setSlot hentry facet
  rw [hpending] at hbefore
  exact (hafter (.loaded (create place).1)).trans (hbefore.symm.cons _)

/-- Giving a claim up concerns no holding. -/
theorem holdings_giveUp {grid grid' : Grid} {facet : ByteFacet} {claim : Claim}
    (h : grid.giveUp? facet claim = some grid') : grid.holdings.Perm grid'.holdings := by
  refine holdings_perm_of_loaded fun id other handle => ?_
  rw [slotAt_giveUp h]
  split
  · rename_i hsame
    obtain ⟨rfl, rfl⟩ := hsame
    rw [awaits_iff.mp (giveUp?_eq_some h).1]
    simp
  · rfl

/-- Claiming concerns no holding. -/
theorem holdings_claimAll (grid : Grid) (facet : ByteFacet) (ids : List ItemId) :
    grid.holdings.Perm (grid.claimAll facet ids).2.holdings :=
  holdings_perm_of_loaded fun _ _ _ => loaded_claimAll

/-- What leaves the slots alone concerns no holding. -/
theorem SameBytes.holdings {before after : Grid} (h : SameBytes before after) :
    before.holdings.Perm after.holdings :=
  holdings_perm_of_loaded fun id facet _ => by rw [h.slots id facet]

/-- Unloading returns the handles of the holdings that are gone. -/
theorem holdings_unload (grid : Grid) (facet : ByteFacet) (ids : List ItemId) :
    ∃ gone, grid.holdings.Perm (gone ++ (grid.unload facet ids).2.holdings) ∧
      gone.map (·.handle) = (grid.unload facet ids).1.handles := by
  induction ids generalizing grid with
  | nil => exact ⟨[], .refl _, rfl⟩
  | cons id rest ih =>
    rw [unload]
    split
    · exact ih grid
    · rename_i handle hsome
      obtain ⟨entry, hentry, hhandle⟩ := Option.bind_eq_some_iff.mp hsome
      obtain ⟨others, hbefore, hafter⟩ := holdings_setSlot hentry facet
      obtain ⟨gone, hgone, hhandles⟩ := ih (grid.modify id (·.setSlot facet .empty))
      rw [ByteSlot.holding, hhandle] at hbefore
      refine ⟨⟨id, facet, handle⟩ :: gone, ?_, by rw [List.map_cons, hhandles]⟩
      exact hbefore.trans (((hafter .empty).symm.trans hgone).cons _)

/-- Dropping entries returns the handles of the holdings that are gone. -/
theorem holdings_dropEntries (grid : Grid) (ids : List ItemId) :
    ∃ gone, grid.holdings.Perm (gone ++ (grid.dropEntries ids).2.holdings) ∧
      gone.map (·.handle) = (grid.dropEntries ids).1.handles := by
  induction ids generalizing grid with
  | nil => exact ⟨[], .refl _, rfl⟩
  | cons id rest ih =>
    rw [dropEntries]
    split
    · exact ih grid
    · rename_i entry hentry
      have hrows := (Table.rows_perm_erase hentry).flatMap_right fun row => row.2.holdings row.1
      obtain ⟨gone, hgone, hhandles⟩ := ih { grid with entries := grid.entries.erase id }
      refine ⟨entry.holdings id ++ gone, ?_, ?_⟩
      · rw [List.append_assoc]
        exact hrows.trans (hgone.append_left _)
      · rw [List.map_append, hhandles, Entry.handles_eq id]

/-- Removing entries returns the handles of the holdings that are gone. -/
theorem holdings_discard (grid : Grid) (ids : List ItemId) :
    ∃ gone, grid.holdings.Perm (gone ++ (grid.discard ids).2.holdings) ∧
      gone.map (·.handle) = (grid.discard ids).1.handles := by
  obtain ⟨gone, hgone, hhandles⟩ := holdings_dropEntries grid ids
  refine ⟨gone, ?_, hhandles⟩
  unfold discard
  dsimp only
  split <;> exact hgone

/-- Clearing returns the handles of all holdings. -/
theorem handles_clear (grid : Grid) (keepQuery : Bool) :
    (grid.clear keepQuery).1.handles = grid.holdings.map (·.handle) := by
  rw [holdings, List.map_flatMap]
  exact congrArg (List.flatMap · grid.entries.rows) (funext fun row => Entry.handles_eq row.1 row.2)

/-- How many slots of a facet are loaded. -/
def loadedCount (grid : Grid) (facet : ByteFacet) : Nat :=
  grid.entries.rows.countP fun row => (row.2.slot facet).handle?.isSome

/-- The loaded slots of a facet are its holdings. -/
theorem loadedCount_eq (grid : Grid) (facet : ByteFacet) :
    grid.loadedCount facet = grid.holdings.countP (·.facet = facet) := by
  unfold loadedCount holdings
  induction grid.entries.rows with
  | nil => rfl
  | cons row rest ih =>
    rw [List.countP_cons, List.flatMap_cons, List.countP_append, ih, Nat.add_comm]
    congr 1
    rcases row with ⟨id, ref, thumbnail, image, _⟩
    cases facet <;> cases thumbnail <;> cases image <;> rfl

end Grid

end MediaGrid
