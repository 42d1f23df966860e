import MediaGrid.Proofs.Grid.Holdings
import MediaGrid.Proofs.Store.Service

/-!
# Slots and shelf under the operations of the store

Most operations of the store neither move contents on or off the shelf nor settle or make
claims: they leave the byte slots and the shelf alone. This is shown here for each of them,
also for the parts between two calls to the backend, which then wait for no fetch. Clearing,
unloading, removing, claiming and settling are left to others, and so is adding, after which
more ids have entries.
-/

namespace MediaGrid.Store

/-- The slots and the shelf are the same. -/
structure SameStock (before after : Store) : Prop where
  /-- The slots are the same. -/
  bytes : before.grid.SameBytes after.grid
  /-- The shelf is the same. -/
  shelf : after.shelf = before.shelf
  /-- Contents get the same identifiers. -/
  draw : after.draw = before.draw

/-- The slots and the shelf are the same, and no fetch is waited for. -/
structure Quiet (before : Store) (result : Store × Progress) : Prop where
  /-- The slots and the shelf are the same. -/
  stock : before.SameStock result.1
  /-- What waits has no claims to settle. -/
  targets : result.2.pendings.flatMap Pending.targets = []

namespace SameStock

variable {before middle after : Store} {result : Store × Progress}

protected theorem refl (store : Store) : store.SameStock store := ⟨.refl _, rfl, rfl⟩

protected theorem trans (h : before.SameStock middle) (h' : middle.SameStock after) :
    before.SameStock after :=
  ⟨h.bytes.trans h'.bytes, h'.shelf.trans h.shelf, h'.draw.trans h.draw⟩

theorem quiet (h : before.SameStock middle) (h' : middle.Quiet result) : before.Quiet result :=
  ⟨h.trans h'.stock, h'.targets⟩

/-- What replaces the grid by one with the same slots leaves slots and shelf alone. -/
theorem of_grid {store : Store} {grid : Grid} (h : store.grid.SameBytes grid) :
    store.SameStock { store with grid := grid } := ⟨h, rfl, rfl⟩

end SameStock

variable (store : Store)

theorem sameStock_publish (event : Event) : store.SameStock (store.publish event) :=
  ⟨.refl _, rfl, rfl⟩

theorem sameStock_publishFor (ids : List ItemId) (event : List ItemId → Event) :
    store.SameStock (store.publishFor ids event) := by
  unfold publishFor
  split
  · exact .refl store
  · exact store.sameStock_publish _

variable {store} in
theorem sameStock_commit {changed : Option Grid} {event : Grid → Event}
    (h : store.grid.SameBytes (changed.getD store.grid)) :
    store.SameStock (store.commit changed event).2 := by
  cases changed with
  | none => exact .refl store
  | some grid => exact (SameStock.of_grid h).trans (sameStock_publish _ _)

theorem sameStock_moveRequest (kind : Request) (state : RequestStatus) :
    store.SameStock (store.moveRequest kind state) :=
  sameStock_commit (store.grid.sameBytes_moveRequest kind state)

theorem sameStock_amend (ids : List ItemId) (update : Metadata) :
    store.SameStock (store.amend ids update).2 :=
  (SameStock.of_grid (.of_records (store.grid.sameUpTo_amendRecords update ids))).trans
    (sameStock_publishFor _ _ _)

theorem sameStock_mark (ids : Option (List ItemId)) (value : Bool) :
    store.SameStock (store.mark ids value).2 := by
  have hsame := store.grid.sameBytes_mark ids value
  unfold mark
  dsimp only
  split
  · exact .refl store
  · exact (SameStock.of_grid hsame).trans (sameStock_publish _ _)

theorem sameStock_setDialog (isOpen : Bool) : store.SameStock (store.setDialog isOpen).2 :=
  sameStock_commit (store.grid.sameBytes_setDialog isOpen)

theorem sameStock_setVideo (id : ItemId) (urls : Option VideoLinks) :
    store.SameStock (store.setVideo id urls).2 :=
  sameStock_commit (store.grid.sameBytes_setVideo id urls)

theorem sameStock_showVideo (urlsOf : Artifact → Option VideoLinks) (id : ItemId) :
    store.SameStock (store.showVideo urlsOf id).2 := by
  rcases store.showVideo_cases urlsOf id with ⟨hkept, -⟩ | ⟨-, urls, -, -, hset⟩
  · rw [hkept]
    exact .refl store
  · rw [hset]
    exact store.sameStock_setVideo id _

theorem sameStock_typeSearch (search : String) :
    store.SameStock (store.typeSearch search).2 :=
  sameStock_commit (store.grid.sameBytes_setSearch search _)

theorem sameStock_offerCompletions (search : String) (completions : List String) :
    store.SameStock (store.offerCompletions search completions) := by
  unfold offerCompletions
  split
  · exact sameStock_commit (store.grid.sameBytes_setCompletions completions)
  · exact .refl store

theorem sameStock_storeRecords (claimed : List (ItemId × Artifact))
    (records : List (Artifact × Metadata)) :
    store.SameStock (store.storeRecords claimed records).2 :=
  (SameStock.of_grid (.of_records (store.grid.sameUpTo_settleRecords _ records))).trans
    (sameStock_publishFor _ _ _)

theorem sameStock_giveUpRecords (claimed : List (ItemId × Artifact)) :
    store.SameStock (store.giveUpRecords claimed) :=
  .of_grid (.of_records (store.grid.sameUpTo_giveUpRecords _))

/-! ## Between two calls -/

theorem quiet_finishEdit (ids : List ItemId) (update : Metadata) :
    store.Quiet (store.finishEdit ids update) :=
  ⟨(store.sameStock_amend ids update).trans (sameStock_moveRequest _ _ _), rfl⟩

theorem quiet_afterPage (run : PageRun) (result : Except Failure (List ItemId)) :
    store.Quiet (store.afterPage run result) := by
  unfold afterPage
  cases run.purpose with
  | report => exact ⟨.refl store, rfl⟩
  | edit ids update => exact store.quiet_finishEdit ids update

theorem quiet_askPage (queries : List Query) (page epoch : Nat) (purpose : Purpose) :
    store.Quiet (store.askPage queries page epoch purpose) :=
  ⟨store.sameStock_moveRequest _ _, rfl⟩

theorem quiet_openQuery (queries : List Query) (page : Nat) (purpose : Purpose) :
    store.Quiet (store.openQuery queries page purpose) := by
  have hsame : store.grid.SameBytes (store.grid.openQuery queries page).2 := .of_entries rfl rfl
  exact (SameStock.of_grid hsame).quiet (quiet_askPage _ _ _ _ _)

theorem quiet_settlePage (run : PageRun) (added : List ItemId) :
    store.Quiet (store.settlePage run added) :=
  (store.sameStock_moveRequest _ _).quiet (quiet_afterPage _ _ _)

/-- Once a page was merged, what is left to do leaves the slots alone. -/
theorem quiet_mergePage (run : PageRun) (page : Page) :
    Quiet { store with grid := (store.grid.mergePage run.epoch page).2 }
      (store.mergePage run page) := by
  unfold mergePage
  split
  · rename_i grid hmerge
    rw [hmerge]
    exact quiet_afterPage _ _ _
  · rename_i merged grid hmerge
    rw [hmerge]
    dsimp only
    have hmerged := (sameStock_publishFor { store with grid := grid } merged.added .added).trans
      (sameStock_publish _ (.pageMerged merged.page merged.hasMore))
    have hclaimed := hmerged.trans
      (.of_grid (.of_records (Grid.sameUpTo_claimRecords _ merged.added)))
    split
    · exact hclaimed.quiet (quiet_settlePage _ _ _)
    · exact ⟨hclaimed, rfl⟩

theorem quiet_losePage (run : PageRun) (failure : Failure) :
    store.Quiet (store.losePage run failure) := by
  have hsame := store.grid.sameBytes_withdrawPage run.epoch
  unfold losePage
  cases hwithdraw : store.grid.withdrawPage? run.epoch with
  | none => exact store.quiet_afterPage _ _
  | some grid =>
    rw [hwithdraw] at hsame
    exact ((SameStock.of_grid hsame).trans (sameStock_moveRequest _ _ _)).quiet
      (quiet_afterPage _ _ _)

theorem quiet_finishSuggestions (search : String) (completions : List String) :
    store.Quiet (store.finishSuggestions search completions) :=
  ⟨store.sameStock_offerCompletions search completions, rfl⟩

theorem quiet_rememberSuggestions (search : String) (completions : List String) :
    store.Quiet (store.rememberSuggestions search completions) := by
  have hsame : store.SameStock (store.remember search completions) := ⟨.refl _, rfl, rfl⟩
  exact hsame.quiet (quiet_finishSuggestions _ _ _)

end MediaGrid.Store
