import MediaGrid.Proofs.Store.Cache

/-!
# What changes the search

The search text, its menu and its completions are changed in two ways only: a text is typed, with
the menu that goes with it, and completions are offered for a text. A text that is picked is typed
too. Every other operation leaves all three alone, also those that clear the view, begin a query or
rebuild the view after an edit. What is published of it, and whether the completions fit the text,
are no part of it.
-/

namespace MediaGrid

/-- What the grid knows of the search. -/
structure SearchState where
  /-- The text. -/
  text : String
  /-- The menu. -/
  menu : Menu
  /-- The completions. -/
  completions : List String

namespace SearchState

/-- The search after a text was typed. Completions of another text are dropped. -/
def typed (state : SearchState) (text : String) : SearchState :=
  ⟨text, Menu.ofText text, if state.text = text then state.completions else []⟩

/-- The search after completions of a text were offered. They are refused if another text was typed
meanwhile. -/
def offered (state : SearchState) (text : String) (completions : List String) : SearchState :=
  if state.text = text then { state with completions := completions } else state

end SearchState

/-! ## In the grid -/

namespace Grid

/-- The state of the search. -/
def searchState (grid : Grid) : SearchState := ⟨grid.search, grid.menu, grid.completions⟩

theorem SameUpTo.searchState_eq {blank : Entry → Entry} {before after : Grid}
    (h : SameUpTo blank before after) : after.searchState = before.searchState := by
  rw [h.rest]
  rfl

variable (grid : Grid)

theorem searchState_addAll (refs : List Artifact) :
    (grid.addAll refs).2.searchState = grid.searchState :=
  (congrArg searchState (addAll_rest grid refs) : _)

theorem searchState_discard (ids : List ItemId) :
    (grid.discard ids).2.searchState = grid.searchState :=
  (congrArg searchState (discard_rest grid ids) : _)

theorem searchState_mergePage (epoch : Nat) (page : Page) :
    (grid.mergePage epoch page).2.searchState = grid.searchState := by
  rcases grid.mergePage_cases epoch page with hsame | ⟨active, -, hadded⟩
  · rw [hsame]
  · rw [hadded]
    exact grid.searchState_addAll page.refs

end Grid

/-! ## Operations that leave the search alone -/

namespace Store

variable (store : Store)

theorem searchState_moveRequest (kind : Request) (state : RequestStatus) :
    (store.moveRequest kind state).grid.searchState = store.grid.searchState := by
  rw [grid_moveRequest]
  rfl

theorem searchState_addAll (refs : List Artifact) :
    (store.addAll refs).2.grid.searchState = store.grid.searchState := by
  rw [addAll, grid_publishFor]
  exact store.grid.searchState_addAll refs

theorem searchState_clear (keepQuery : Bool) :
    (store.clear keepQuery).grid.searchState = store.grid.searchState := by
  unfold clear Grid.clear
  dsimp only [publish]
  split <;> rfl

theorem searchState_unload (facet : ByteFacet) (ids : List ItemId) :
    (store.unload facet ids).2.grid.searchState = store.grid.searchState := by
  rw [unload, grid_publishFor]
  exact (store.grid.sameUpTo_unload facet ids).searchState_eq

theorem searchState_discard (ids : List ItemId) :
    (store.discard ids).2.grid.searchState = store.grid.searchState := by
  simp only [discard, grid_publishFor]
  exact store.grid.searchState_discard ids

theorem searchState_amend (ids : List ItemId) (update : Metadata) :
    (store.amend ids update).2.grid.searchState = store.grid.searchState := by
  rw [amend, grid_publishFor]
  exact (store.grid.sameUpTo_amendRecords update ids).searchState_eq

theorem searchState_mark (ids : Option (List ItemId)) (value : Bool) :
    (store.mark ids value).2.grid.searchState = store.grid.searchState := by
  obtain ⟨entries, count, hmark⟩ := store.grid.exists_mark ids value
  rw [grid_mark, hmark]
  rfl

theorem searchState_setDialog (isOpen : Bool) :
    (store.setDialog isOpen).2.grid.searchState = store.grid.searchState := by
  rw [setDialog, grid_commit, Grid.setDialog?]
  split <;> rfl

theorem searchState_setVideo (id : ItemId) (urls : Option VideoLinks) :
    (store.setVideo id urls).2.grid.searchState = store.grid.searchState := by
  rw [setVideo, grid_commit]
  cases h : store.grid.setVideo? id urls with
  | none => rfl
  | some grid => exact (Grid.sameUpTo_setVideo h).searchState_eq

theorem searchState_showVideo (urlsOf : Artifact → Option VideoLinks) (id : ItemId) :
    (store.showVideo urlsOf id).2.grid.searchState = store.grid.searchState := by
  rcases store.showVideo_cases urlsOf id with ⟨hkept, -⟩ | ⟨-, urls, -, -, hset⟩
  · rw [hkept]
  · rw [hset]
    exact store.searchState_setVideo id _

theorem searchState_storeRecords (claimed : List (ItemId × Artifact))
    (records : List (Artifact × Metadata)) :
    (store.storeRecords claimed records).2.grid.searchState = store.grid.searchState := by
  rw [storeRecords, grid_publishFor]
  exact (store.grid.sameUpTo_settleRecords _ records).searchState_eq

theorem searchState_giveUpRecords (claimed : List (ItemId × Artifact)) :
    (store.giveUpRecords claimed).grid.searchState = store.grid.searchState :=
  (store.grid.sameUpTo_giveUpRecords _).searchState_eq

/-! ## Between two calls -/

theorem searchState_finishEdit (ids : List ItemId) (update : Metadata) :
    (store.finishEdit ids update).1.grid.searchState = store.grid.searchState :=
  (searchState_moveRequest _ _ _).trans (store.searchState_amend ids update)

theorem searchState_afterPage (run : PageRun) (result : Except Failure (List ItemId)) :
    (store.afterPage run result).1.grid.searchState = store.grid.searchState := by
  unfold afterPage
  split
  · rfl
  · exact store.searchState_finishEdit _ _

theorem searchState_openQuery (queries : List Query) (page : Nat) (purpose : Purpose) :
    (store.openQuery queries page purpose).1.grid.searchState = store.grid.searchState :=
  searchState_moveRequest _ .query .loading

theorem searchState_settlePage (run : PageRun) (added : List ItemId) :
    (store.settlePage run added).1.grid.searchState = store.grid.searchState :=
  (searchState_afterPage _ _ _).trans (store.searchState_moveRequest _ _)

theorem searchState_mergePage (run : PageRun) (page : Page) :
    (store.mergePage run page).1.grid.searchState = store.grid.searchState := by
  have hmerged := store.grid.searchState_mergePage run.epoch page
  unfold mergePage
  split
  · rename_i grid hnone
    rw [hnone] at hmerged
    exact (searchState_afterPage _ run _).trans hmerged
  · rename_i merged grid hsome
    rw [hsome] at hmerged
    have hclaimed : ∀ told : Store, told.grid = grid →
        (told.grid.claimRecords merged.added).2.searchState = store.grid.searchState := by
      rintro told rfl
      exact (told.grid.sameUpTo_claimRecords merged.added).searchState_eq.trans hmerged
    have htold := grid_publishFor { store with grid := grid } merged.added .added
    dsimp only
    split
    · exact (searchState_settlePage _ run _).trans (hclaimed _ htold)
    · exact hclaimed _ htold

theorem searchState_losePage (run : PageRun) (failure : Failure) :
    (store.losePage run failure).1.grid.searchState = store.grid.searchState := by
  unfold losePage
  cases hlost : store.grid.withdrawPage? run.epoch with
  | none => exact store.searchState_afterPage run _
  | some grid =>
    obtain ⟨-, rfl⟩ := Grid.withdrawPage?_eq_some hlost
    exact (searchState_afterPage _ run _).trans (searchState_moveRequest _ .query _)

theorem searchState_load (facet : ByteFacet) (ids : List ItemId) (size : Nat) :
    (store.load facet ids size).1.grid.searchState = store.grid.searchState := by
  have hclaimed := (store.grid.sameUpTo_claimAll facet ids).searchState_eq
  rw [(store.load_eq facet ids size).1]
  exact hclaimed

theorem searchState_settleClaim (facet : ByteFacet) (state : Store × LoadTally) (claim : Claim)
    (outcome : Except Failure String) :
    (settleClaim facet state claim outcome).1.grid.searchState = state.1.grid.searchState := by
  obtain ⟨store, tally⟩ := state
  cases outcome with
  | ok content =>
    simp only [settleClaim, fill]
    split
    · rfl
    · rename_i hfilled
      exact (Grid.sameUpTo_fill hfilled).searchState_eq
  | error failure =>
    simp only [settleClaim]
    split
    · rfl
    · rename_i hgiven
      exact (Grid.sameUpTo_giveUp hgiven).searchState_eq

/-- A chunk is settled claim by claim. -/
theorem searchState_settleClaims (facet : ByteFacet) (state : Store × LoadTally)
    (settled : List ((Claim × Artifact) × Except Failure String)) :
    (settleClaims facet state settled).1.grid.searchState = state.1.grid.searchState := by
  induction settled generalizing state with
  | nil => rfl
  | cons head rest ih => exact (ih _).trans (searchState_settleClaim facet state head.1.1 head.2)

theorem searchState_rebuild (ids : List ItemId) (update : Metadata) :
    (store.rebuild ids update).1.grid.searchState = store.grid.searchState := by
  have hclosed : (store.setDialog false).2.forget.grid.searchState = store.grid.searchState :=
    store.searchState_setDialog false
  unfold rebuild
  dsimp only
  generalize (store.setDialog false).2.forget = closed at hclosed ⊢
  have hunloaded := (searchState_unload _ .full closed.grid.ids).trans
    ((closed.searchState_unload .thumbnail closed.grid.ids).trans hclosed)
  have hcleared := (searchState_clear _ true).trans hunloaded
  split
  · exact (searchState_finishEdit _ ids update).trans hcleared
  · exact (searchState_openQuery _ _ 0 _).trans hcleared

/-! ## Typing and offering -/

/-- A text is typed with the menu that goes with it. -/
theorem searchState_typeSearch (text : String) :
    (store.typeSearch text).2.grid.searchState = store.grid.searchState.typed text := by
  rw [typeSearch, grid_commit, Grid.setSearch?]
  split
  · rename_i hsame
    have htext : store.grid.searchState.text = text := hsame.1
    rw [SearchState.typed, if_pos htext, ← hsame.2, ← hsame.1]
    rfl
  · rfl

/-- Completions are taken for the text that they were computed for. -/
theorem searchState_offerCompletions (text : String) (texts : List String) :
    (store.offerCompletions text texts).grid.searchState =
      store.grid.searchState.offered text texts := by
  unfold offerCompletions SearchState.offered
  by_cases htext : store.grid.searchState.text = text
  · have hsearch : store.grid.search = text := htext
    rw [if_pos hsearch, if_pos htext, grid_commit, Grid.setCompletions?]
    split
    · rename_i hsame
      rw [← hsame]
      rfl
    · rfl
  · have hsearch : store.grid.search ≠ text := htext
    rw [if_neg hsearch, if_neg htext]

variable {store} in
/-- An operation that starts leaves the search alone, unless it ends at once with completions of the
search text. -/
theorem searchState_begin {operation : Operation} {result : Store × Progress}
    (h : store.Begins operation result) :
    result.1.grid.searchState = store.grid.searchState ∨
      operation = .suggest ∧ ∃ texts, result.2 = .done (.ok (.completions texts)) ∧
        result.1.grid.searchState =
          store.grid.searchState.offered store.grid.search texts := by
  cases h with
  | declined operation outcome hdeclines => exact Or.inl rfl
  | openQuery queries page => exact Or.inl (store.searchState_openQuery queries page .report)
  | furtherPage page queries epoch asked hask =>
    obtain ⟨active, -, -, -, -, -, rfl⟩ := Grid.askFurther?_eq_some_iff.mp hask
    exact Or.inl (searchState_moveRequest _ .query .loading)
  | refill active hactive =>
    exact Or.inl ((searchState_openQuery _ _ 0 .report).trans (store.searchState_clear true))
  | submit =>
    exact Or.inl ((searchState_openQuery _ _ 0 .report).trans (store.searchState_clear false))
  | describe ids hsome => exact Or.inl (store.grid.sameUpTo_claimRecords ids).searchState_eq
  | thumbnails ids chunk => exact Or.inl (store.searchState_load .thumbnail ids chunk)
  | image id hin => exact Or.inl (store.searchState_load .full [id] 1)
  | followScroll entered exited =>
    exact Or.inl ((searchState_load _ .thumbnail entered _).trans
      (store.searchState_unload .thumbnail exited))
  | archive targets hbegin =>
    exact Or.inl ((searchState_mark _ _ false).trans
      (store.searchState_moveRequest .download .loading))
  | delete targets hbegin => exact Or.inl (store.searchState_moveRequest .delete .loading)
  | edit update targets hbegin =>
    exact Or.inl (store.searchState_moveRequest .metadataEdit .loading)
  | suggestCached texts hcached =>
    exact Or.inr ⟨rfl, texts, rfl, store.searchState_offerCompletions _ texts⟩
  | suggestNone hcached hnone =>
    exact Or.inr ⟨rfl, [], rfl, store.searchState_offerCompletions _ []⟩
  | suggestPage hcached hwords hlimit => exact Or.inl rfl

/-- An answer leaves the search alone, unless it ends the computation of completions. -/
theorem searchState_resume {pending : Pending} {reply : Reply} {result : Store × Progress}
    (h : store.resume pending reply = some result) :
    result.1.grid.searchState = store.grid.searchState ∨ ∃ text texts,
      pending.search? = some text ∧ result.2 = .done (.ok (.completions texts)) ∧
        result.1.grid.searchState = store.grid.searchState.offered text texts := by
  cases resumes_of_eq_some h with
  | page run page => exact Or.inl (store.searchState_mergePage run page)
  | pageLost run failure => exact Or.inl (store.searchState_losePage run failure)
  | pageRecords run added claimed records =>
    exact Or.inl ((searchState_settlePage _ run added).trans
      (store.searchState_storeRecords claimed records))
  | pageRecordsLost run added claimed failure =>
    exact Or.inl ((searchState_afterPage _ run _).trans ((searchState_moveRequest _ .query _).trans
      (store.searchState_giveUpRecords claimed)))
  | records claimed records => exact Or.inl (store.searchState_storeRecords claimed records)
  | recordsLost claimed failure => exact Or.inl (store.searchState_giveUpRecords claimed)
  | contents load outcomes hlength =>
    have hsettled := searchState_settleClaims load.facet (store, load.summary)
      (load.chunk.zip outcomes)
    unfold settleChunk nextChunk
    dsimp only
    split <;> exact Or.inl hsettled
  | archive items => exact Or.inl (store.searchState_moveRequest .download _)
  | archiveLost items failure => exact Or.inl (store.searchState_moveRequest .download _)
  | delete targets =>
    exact Or.inl ((searchState_moveRequest _ .delete _).trans (store.forget.searchState_discard _))
  | deleteLost targets failure => exact Or.inl (store.searchState_moveRequest .delete _)
  | edit targets update => exact Or.inl (store.searchState_rebuild _ update)
  | editLost targets update failure => exact Or.inl (store.searchState_moveRequest .metadataEdit _)
  | suggestNone search request fragments page hempty =>
    exact Or.inr ⟨search, _, rfl, rfl, (store.remember search []).searchState_offerCompletions _ _⟩
  | suggestPage search request fragments page hsome => exact Or.inl rfl
  | suggestPageLost search request fragments failure => exact Or.inl rfl
  | suggestRecords search refs fragments records =>
    exact Or.inr ⟨search, _, rfl, rfl, (store.remember search _).searchState_offerCompletions _ _⟩
  | suggestRecordsLost search refs fragments failure => exact Or.inl rfl

end Store

end MediaGrid
