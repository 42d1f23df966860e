import MediaGrid.Proofs.Store.Debts

/-!
# The states of the requests

Most operations of the store leave the states of the requests alone. This is shown here for
each of them, beside what moving a request, starting one on the selection and clearing the view
do to the states. Operations that go from one call to the next are put together from these.
-/

namespace MediaGrid.Store

variable (store : Store)

@[simp]
theorem requests_publishFor (ids : List ItemId) (event : List ItemId → Event) :
    (store.publishFor ids event).grid.requests = store.grid.requests := by
  rw [grid_publishFor]

@[simp]
theorem requests_moveRequest (kind : Request) (state : RequestStatus) :
    (store.moveRequest kind state).grid.requests = store.grid.requests.set kind state := by
  rw [grid_moveRequest]

@[simp]
theorem requests_addAll (refs : List Artifact) :
    (store.addAll refs).2.grid.requests = store.grid.requests := by
  simp only [addAll, requests_publishFor, Grid.requests_addAll]

/-- Clearing the view puts a query that runs back to idle. -/
@[simp]
theorem requests_clear (keepQuery : Bool) :
    (store.clear keepQuery).grid.requests =
      if store.grid.requests.get .query = .loading then store.grid.requests.set .query .idle
      else store.grid.requests := by
  unfold clear Grid.clear
  dsimp only [publish]
  split <;> rfl

@[simp]
theorem requests_unload (facet : ByteFacet) (ids : List ItemId) :
    (store.unload facet ids).2.grid.requests = store.grid.requests := by
  simp only [unload, requests_publishFor]
  exact (store.grid.sameUpTo_unload facet ids).requests_eq

@[simp]
theorem requests_discard (ids : List ItemId) :
    (store.discard ids).2.grid.requests = store.grid.requests := by
  simp only [discard, requests_publishFor, Grid.requests_discard]

@[simp]
theorem requests_amend (ids : List ItemId) (update : Metadata) :
    (store.amend ids update).2.grid.requests = store.grid.requests := by
  simp only [amend, requests_publishFor]
  exact (store.grid.sameUpTo_amendRecords update ids).requests_eq

@[simp]
theorem requests_mark (ids : Option (List ItemId)) (value : Bool) :
    (store.mark ids value).2.grid.requests = store.grid.requests := by
  obtain ⟨entries, count, hmark⟩ := store.grid.exists_mark ids value
  rw [grid_mark, hmark]

@[simp]
theorem requests_setDialog (isOpen : Bool) :
    (store.setDialog isOpen).2.grid.requests = store.grid.requests := by
  rw [setDialog, grid_commit, Grid.setDialog?]
  split <;> rfl

@[simp]
theorem requests_setVideo (id : ItemId) (urls : Option VideoLinks) :
    (store.setVideo id urls).2.grid.requests = store.grid.requests := by
  rw [setVideo, grid_commit]
  cases h : store.grid.setVideo? id urls with
  | none => rfl
  | some grid => exact (Grid.sameUpTo_setVideo h).requests_eq

@[simp]
theorem requests_showVideo (urlsOf : Artifact → Option VideoLinks) (id : ItemId) :
    (store.showVideo urlsOf id).2.grid.requests = store.grid.requests := by
  rcases store.showVideo_cases urlsOf id with ⟨hkept, -⟩ | ⟨-, urls, -, -, hset⟩
  · rw [hkept]
  · rw [hset]
    exact store.requests_setVideo id _

@[simp]
theorem requests_typeSearch (search : String) :
    (store.typeSearch search).2.grid.requests = store.grid.requests := by
  rw [typeSearch, grid_commit, Grid.setSearch?]
  split <;> rfl

@[simp]
theorem requests_offerCompletions (search : String) (completions : List String) :
    (store.offerCompletions search completions).grid.requests = store.grid.requests := by
  unfold offerCompletions
  split
  · rw [grid_commit, Grid.setCompletions?]
    split <;> rfl
  · rfl

@[simp]
theorem requests_storeRecords (claimed : List (ItemId × Artifact))
    (records : List (Artifact × Metadata)) :
    (store.storeRecords claimed records).2.grid.requests = store.grid.requests := by
  simp only [storeRecords, requests_publishFor]
  exact (store.grid.sameUpTo_settleRecords _ records).requests_eq

@[simp]
theorem requests_giveUpRecords (claimed : List (ItemId × Artifact)) :
    (store.giveUpRecords claimed).grid.requests = store.grid.requests :=
  (store.grid.sameUpTo_giveUpRecords _).requests_eq

@[simp]
theorem requests_load (facet : ByteFacet) (ids : List ItemId) (size : Nat) :
    (store.load facet ids size).1.grid.requests = store.grid.requests := by
  rw [(store.load_eq facet ids size).1]
  exact (store.grid.sameUpTo_claimAll facet ids).requests_eq

@[simp]
theorem requests_settleClaims (facet : ByteFacet) (state : Store × LoadTally)
    (settled : List ((Claim × Artifact) × Except Failure String)) :
    (settleClaims facet state settled).1.grid.requests = state.1.grid.requests := by
  induction settled generalizing state with
  | nil => rfl
  | cons head rest ih =>
    have hstep : (settleClaim facet state head.1.1 head.2).1.grid.requests =
        state.1.grid.requests := by
      rcases grid_settleClaim facet state head.1.1 head.2 with ⟨-, slot, -, hgrid⟩ | ⟨-, hgrid⟩
      · rw [hgrid]
        rfl
      · rw [hgrid]
    exact (ih _).trans hstep

end MediaGrid.Store
