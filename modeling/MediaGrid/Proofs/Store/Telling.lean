import MediaGrid.Proofs.Grid.Consistency
import MediaGrid.Proofs.Grid.News
import MediaGrid.Proofs.Store.Debts

/-!
# What the store publishes

The store moves on by operations of its grid, and publishes the news of each of them, no more,
no less, and in order. This is shown here for every operation of the store, and so for every turn
of a service. It makes the grid of a service one that is reached by a run of the grid, and lets
a subscriber who heard every event know what there is to know about it. How events get from
the store to the subscribers is not covered.
-/

namespace MediaGrid

namespace Store

/-- The store moved on by actions of its grid, and published the news of each. -/
structure Plays (before : Store) (actions : List GridAction) (after : Store) : Prop where
  /-- The grid is the one after the actions. -/
  grid : after.grid = before.grid.run actions
  /-- The news of the actions were published. -/
  published : after.published = before.published ++ before.grid.newsOf actions
  /-- The pages that were merged found their query. -/
  finds : before.grid.FindsAll actions

/-- The store moved on without marking or removing entries, and published the news. -/
def Tells (before after : Store) : Prop :=
  ∃ actions, before.Plays actions after ∧ ∀ action ∈ actions, action.marks = false

/-- The store moved on and published the news, and what it said of the selection came last. -/
def Reports (before after : Store) : Prop :=
  ∃ actions, before.Plays actions after ∧ Grid.MarksLast actions

section

variable {before middle after : Store} {actions actions' : List GridAction}

/-- A store with the same grid that published the same played nothing. -/
theorem plays_nil (hgrid : after.grid = before.grid) (hnews : after.published = before.published) :
    before.Plays [] after :=
  ⟨hgrid, hnews.trans (List.append_nil _).symm, trivial⟩

theorem plays_one {action : GridAction} (hfinds : before.grid.Finds action)
    (hgrid : after.grid = before.grid.act action)
    (hnews : after.published = before.published ++ before.grid.news action) :
    before.Plays [action] after :=
  ⟨hgrid, hnews.trans (congrArg _ (List.append_nil _).symm), hfinds, trivial⟩

protected theorem Plays.trans (h : before.Plays actions middle)
    (h' : middle.Plays actions' after) : before.Plays (actions ++ actions') after where
  grid := by
    rw [h'.grid, h.grid]
    exact List.foldl_append.symm
  published := by
    rw [h'.published, h.published, List.append_assoc, Grid.newsOf_append, h.grid]
  finds := Grid.findsAll_append.mpr ⟨h.finds, h.grid ▸ h'.finds⟩

theorem Plays.tells {action : GridAction} (h : before.Plays [action] after)
    (hmarks : action.marks = false) : before.Tells after :=
  ⟨[action], h, fun _ hm => List.mem_singleton.mp hm ▸ hmarks⟩

namespace Tells

theorem of_same (hgrid : after.grid = before.grid) (hnews : after.published = before.published) :
    before.Tells after :=
  ⟨[], plays_nil hgrid hnews, fun _ hm => by cases hm⟩

protected theorem refl (store : Store) : store.Tells store := of_same rfl rfl

/-- A single action that neither marks nor removes entries. -/
theorem of_act (action : GridAction) (hmarks : action.marks = false)
    (hfinds : before.grid.Finds action) (hgrid : after.grid = before.grid.act action)
    (hnews : after.published = before.published ++ before.grid.news action) :
    before.Tells after :=
  (plays_one hfinds hgrid hnews).tells hmarks

protected theorem trans (h : before.Tells middle) (h' : middle.Tells after) :
    before.Tells after := by
  obtain ⟨actions, hplays, hmarks⟩ := h
  obtain ⟨actions', hplays', hmarks'⟩ := h'
  exact ⟨actions ++ actions', hplays.trans hplays', fun action hm =>
    (List.mem_append.mp hm).elim (hmarks action) (hmarks' action)⟩

/-- Without marking anything, what was said of the selection comes last. -/
theorem reports (h : before.Tells after) : before.Reports after := by
  obtain ⟨actions, hplays, hmarks⟩ := h
  -- No action marks, so the condition on what comes after one is empty.
  refine ⟨actions, hplays, List.pairwise_of_forall_mem_list fun action hm _ _ hmark => ?_⟩
  rw [hmarks action hm] at hmark
  cases hmark

/-- What follows upon no marking may mark. -/
theorem trans_reports (h : before.Tells middle) (h' : middle.Reports after) :
    before.Reports after := by
  obtain ⟨actions, hplays, hmarks⟩ := h
  obtain ⟨actions', hplays', hlast⟩ := h'
  refine ⟨actions ++ actions', hplays.trans hplays', List.pairwise_append.mpr
    ⟨List.pairwise_of_forall_mem_list fun action hm _ _ hmark => ?_, hlast,
      fun action hm _ _ hmark => ?_⟩⟩
  all_goals
    rw [hmarks action hm] at hmark
    cases hmark

end Tells

end

variable (store : Store)

theorem published_publishFor (ids : List ItemId) (event : List ItemId → Event) :
    (store.publishFor ids event).published = store.published ++ eventsFor ids event := by
  unfold publishFor eventsFor
  split
  · exact (List.append_nil _).symm
  · rfl

variable {store} in
/-- A change that is committed is an action with one event, if it changes anything. -/
theorem plays_commit {changed : Option Grid} {event : Grid → Event} {action : GridAction}
    (hfinds : store.grid.Finds action)
    (hgrid : store.grid.act action = changed.getD store.grid)
    (hnews : store.grid.news action = (changed.map event).toList) :
    store.Plays [action] (store.commit changed event).2 := by
  refine plays_one hfinds ((store.grid_commit changed event).trans hgrid.symm) ?_
  rw [hnews]
  cases changed with
  | none => exact (List.append_nil _).symm
  | some grid => rfl

theorem plays_moveRequest (kind : Request) (state : RequestStatus) :
    store.Plays [.moveRequest kind state] (store.moveRequest kind state) := by
  refine plays_commit trivial rfl ?_
  simp only [Grid.news, Grid.moveRequest?]
  split <;> rfl

theorem tells_moveRequest (kind : Request) (state : RequestStatus) :
    store.Tells (store.moveRequest kind state) :=
  (store.plays_moveRequest kind state).tells rfl

theorem tells_addAll (refs : List Artifact) : store.Tells (store.addAll refs).2 :=
  .of_act (.add refs) rfl trivial (grid_publishFor _ _ _)
    (published_publishFor _ _ _)

theorem tells_clear (keepQuery : Bool) : store.Tells (store.clear keepQuery) := by
  refine .of_act (.clear keepQuery) rfl trivial ?_ ?_
  · unfold clear
    dsimp only
    split <;> rfl
  · unfold clear
    simp only [Grid.news]
    split
    · exact List.append_assoc _ _ _
    · rfl

theorem tells_unload (facet : ByteFacet) (ids : List ItemId) :
    store.Tells (store.unload facet ids).2 :=
  .of_act (.unload facet ids) rfl trivial (grid_publishFor _ _ _)
    (published_publishFor _ _ _)

theorem tells_fill (facet : ByteFacet) (claim : Claim) (content : String) :
    store.Tells (store.fill facet claim content).2 := by
  have hsome := store.grid.isSome_fill? facet claim
    (fun shelf : Shelf => shelf.put (store.draw shelf.created) facet.facet content) store.shelf
  unfold fill
  dsimp only
  split
  · exact .refl store
  · rename_i grid shelf hfill
    rw [hfill] at hsome
    obtain ⟨hawaits, -, hgrid⟩ := Grid.fill?_eq_some hfill
    refine .of_act (.fill facet claim
      (store.shelf.put (store.draw store.shelf.created) facet.facet content).1) rfl trivial ?_ ?_
    · simp only [Grid.act, Grid.fill?, hawaits, if_true]
      exact hgrid
    · simp only [Grid.news, hawaits, if_true]
      rfl

theorem tells_amend (ids : List ItemId) (update : Metadata) :
    store.Tells (store.amend ids update).2 :=
  .of_act (.amendRecords update ids) rfl trivial (grid_publishFor _ _ _)
    (published_publishFor _ _ _)

theorem tells_setDialog (isOpen : Bool) : store.Tells (store.setDialog isOpen).2 := by
  have hplays : store.Plays [.setDialog isOpen] (store.setDialog isOpen).2 := by
    refine plays_commit trivial rfl ?_
    simp only [Grid.news, Grid.setDialog?]
    split <;> rfl
  exact hplays.tells rfl

theorem tells_setVideo (id : ItemId) (urls : Option VideoLinks) :
    store.Tells (store.setVideo id urls).2 := by
  have hplays : store.Plays [.setVideo id urls] (store.setVideo id urls).2 := by
    refine plays_commit trivial rfl ?_
    simp only [Grid.news]
    cases store.grid.setVideo? id urls <;> rfl
  exact hplays.tells rfl

theorem tells_showVideo (urlsOf : Artifact → Option VideoLinks) (id : ItemId) :
    store.Tells (store.showVideo urlsOf id).2 := by
  rcases store.showVideo_cases urlsOf id with ⟨hkept, -⟩ | ⟨-, urls, -, -, hset⟩
  · rw [hkept]
    exact .refl store
  · rw [hset]
    exact store.tells_setVideo id _

theorem tells_typeSearch (search : String) : store.Tells (store.typeSearch search).2 := by
  have hplays : store.Plays [.setSearch search (Menu.ofText search)]
      (store.typeSearch search).2 := plays_commit trivial rfl rfl
  exact hplays.tells rfl

theorem tells_offerCompletions (search : String) (completions : List String) :
    store.Tells (store.offerCompletions search completions) := by
  unfold offerCompletions
  split
  · have hplays : store.Plays [.setCompletions completions]
        (store.commit (store.grid.setCompletions? completions) searchNews).2 :=
      plays_commit trivial rfl rfl
    exact hplays.tells rfl
  · exact .refl store

theorem tells_storeRecords (claimed : List (ItemId × Artifact))
    (records : List (Artifact × Metadata)) :
    store.Tells (store.storeRecords claimed records).2 := by
  refine .of_act (.settleRecords (claimed.map (·.1)) records) rfl trivial ?_ ?_
  · exact grid_publishFor _ _ _
  · exact published_publishFor _ _ _

theorem tells_giveUpRecords (claimed : List (ItemId × Artifact)) :
    store.Tells (store.giveUpRecords claimed) :=
  .of_act (.giveUpRecords (claimed.map (·.1))) rfl trivial rfl
    (List.append_nil _).symm

/-- Marking is one action, which says what it changed. -/
theorem plays_mark (ids : Option (List ItemId)) (value : Bool) :
    store.Plays [.mark ids value] (store.mark ids value).2 := by
  refine plays_one trivial (store.grid_mark ids value) ?_
  unfold mark
  simp only [Grid.news, eventsFor]
  split
  · exact (List.append_nil _).symm
  · rfl

/-- Removing entries is one action, which also says what became of the selection. -/
theorem plays_discard (ids : List ItemId) :
    store.Plays [.discard ids] (store.discard ids).2 := by
  refine plays_one trivial ?_ ?_
  · simp only [discard, grid_publishFor]
    rfl
  · simp only [discard, published_publishFor, List.append_assoc]
    rfl

/-! ## Between two calls -/

theorem tells_finishEdit (ids : List ItemId) (update : Metadata) :
    store.Tells (store.finishEdit ids update).1 :=
  (store.tells_amend ids update).trans (tells_moveRequest _ _ _)

theorem tells_afterPage (run : PageRun) (result : Except Failure (List ItemId)) :
    store.Tells (store.afterPage run result).1 := by
  unfold afterPage
  split
  · exact .refl store
  · exact store.tells_finishEdit _ _

theorem tells_openQuery (queries : List Query) (page : Nat) (purpose : Purpose) :
    store.Tells (store.openQuery queries page purpose).1 := by
  have hopen : store.Tells { store with grid := (store.grid.openQuery queries page).2 } :=
    .of_act (.openQuery queries page) rfl trivial rfl (List.append_nil _).symm
  exact hopen.trans (tells_moveRequest _ .query .loading)

theorem tells_settlePage (run : PageRun) (added : List ItemId) :
    store.Tells (store.settlePage run added).1 :=
  (store.tells_moveRequest .query .succeeded).trans (tells_afterPage _ _ _)

theorem tells_mergePage (run : PageRun) (page : Page)
    (hrun : run.epoch = store.grid.epoch → store.grid.active.isSome) :
    store.Tells (store.mergePage run page).1 := by
  unfold mergePage
  split
  · rename_i grid hnone
    rcases Grid.mergePage_eq_none hnone with ⟨-, rfl⟩ | ⟨hepoch, hactive, -⟩
    · exact store.tells_afterPage run _
    · rw [hactive] at hrun
      exact absurd (hrun hepoch) Bool.false_ne_true
  · rename_i merged grid hmerge
    dsimp only
    have hmerged : store.Tells (({ store with grid := grid }.publishFor merged.added
        .added).publish (.pageMerged merged.page merged.hasMore)) := by
      refine .of_act (.mergePage run.epoch page) rfl hrun ?_ ?_
      · rw [publish, grid_publishFor, Grid.act, hmerge]
      · simp only [publish, published_publishFor, Grid.news, hmerge, List.append_assoc]
    -- What follows is the same whatever was merged.
    generalize ({ store with grid := grid }.publishFor merged.added .added).publish
      (.pageMerged merged.page merged.hasMore) = told at hmerged ⊢
    have hclaimed : told.Tells { told with grid := (told.grid.claimRecords merged.added).2 } :=
      .of_act (.claimRecords merged.added) rfl trivial rfl (List.append_nil _).symm
    split
    · exact (hmerged.trans hclaimed).trans (tells_settlePage _ run _)
    · exact hmerged.trans hclaimed

theorem tells_losePage (run : PageRun) (failure : Failure) :
    store.Tells (store.losePage run failure).1 := by
  unfold losePage
  cases hlost : store.grid.withdrawPage? run.epoch with
  | none => exact store.tells_afterPage run _
  | some grid =>
    have hwithdrawn : store.Tells { store with grid := grid } := by
      refine .of_act (.withdrawPage run.epoch) rfl trivial ?_ (List.append_nil _).symm
      rw [Grid.act, hlost]
      rfl
    exact (hwithdrawn.trans (tells_moveRequest _ .query _)).trans (tells_afterPage _ run _)

theorem tells_nextChunk (load : ByteLoad) : store.Tells (store.nextChunk load).1 := by
  rw [(store.nextChunk_eq load).1]
  exact .refl store

theorem tells_load (facet : ByteFacet) (ids : List ItemId) (size : Nat) :
    store.Tells (store.load facet ids size).1 := by
  rw [(store.load_eq facet ids size).1]
  exact .of_act (.claim facet ids) rfl trivial rfl (List.append_nil _).symm

theorem tells_settleClaim (facet : ByteFacet) (state : Store × LoadTally) (claim : Claim)
    (outcome : Except Failure String) :
    state.1.Tells (settleClaim facet state claim outcome).1 := by
  obtain ⟨store, tally⟩ := state
  cases outcome with
  | ok content => exact store.tells_fill facet claim content
  | error failure =>
    simp only [settleClaim]
    cases hgive : store.grid.giveUp? facet claim with
    | none => exact .refl store
    | some grid =>
      refine .of_act (.giveUp facet claim) rfl trivial ?_ (List.append_nil _).symm
      rw [Grid.act, hgive]
      rfl

/-- A chunk is settled claim by claim. -/
theorem tells_settleClaims (facet : ByteFacet) (state : Store × LoadTally)
    (settled : List ((Claim × Artifact) × Except Failure String)) :
    state.1.Tells (settleClaims facet state settled).1 := by
  induction settled generalizing state with
  | nil => exact .refl _
  | cons head rest ih => exact (tells_settleClaim facet state head.1.1 head.2).trans (ih _)

theorem tells_rebuild (ids : List ItemId) (update : Metadata) :
    store.Tells (store.rebuild ids update).1 := by
  have hdialog : store.Tells (store.setDialog false).2.forget :=
    (store.tells_setDialog false).trans (.of_same rfl rfl)
  unfold rebuild
  dsimp only
  generalize (store.setDialog false).2.forget = closed at hdialog ⊢
  have hcleared := ((hdialog.trans (closed.tells_unload .thumbnail closed.grid.ids)).trans
    (tells_unload _ .full closed.grid.ids)).trans (tells_clear _ true)
  split
  · exact hcleared.trans (tells_finishEdit _ ids update)
  · exact hcleared.trans (tells_openQuery _ _ 0 _)

theorem tells_rememberSuggestions (search : String) (completions : List String) :
    store.Tells (store.rememberSuggestions search completions).1 := by
  have hremember : store.Tells (store.remember search completions) := .of_same rfl rfl
  exact hremember.trans (tells_offerCompletions _ _ _)

/-- Deleting removes entries, says what became of the selection, and then ends its request. -/
theorem reports_deleted (ids : List ItemId) (state : RequestStatus) :
    store.Reports ((store.forget.discard ids).2.moveRequest .delete state) := by
  have hforget : store.Tells store.forget := .of_same rfl rfl
  have hdeleted := (store.forget.plays_discard ids).trans (plays_moveRequest _ .delete state)
  refine hforget.trans_reports ⟨_, hdeleted, List.pairwise_pair.mpr fun _ => rfl⟩

/-! ## Turns -/

theorem reports_obey (command : Command) : store.Reports (store.obey command) := by
  cases command with
  | add refs => exact (store.tells_addAll refs).reports
  | clear keepQuery => exact (store.tells_clear keepQuery).reports
  | unload facet ids => exact (store.tells_unload facet ids).reports
  | mark ids value => exact ⟨_, store.plays_mark ids value, List.pairwise_singleton _ _⟩
  | dialog isOpen => exact (store.tells_setDialog isOpen).reports
  | showVideo urlsOf id => exact (store.tells_showVideo urlsOf id).reports
  | hideVideo id => exact (store.tells_setVideo id none).reports
  | typeSearch search => exact (store.tells_typeSearch search).reports
  | pick completion => exact (store.tells_typeSearch _).reports

variable {store} in
theorem reports_begin {operation : Operation} {result : Store × Progress}
    (h : store.Begins operation result) : store.Reports result.1 := by
  cases h with
  | declined operation outcome hdeclines => exact (Tells.refl store).reports
  | openQuery queries page => exact (store.tells_openQuery queries page .report).reports
  | furtherPage page queries epoch asked hask =>
    have hasked : store.Tells { store with grid := asked } := by
      refine .of_act (.askFurther page) rfl trivial ?_ (List.append_nil _).symm
      rw [Grid.act, hask]
      rfl
    exact (hasked.trans (tells_moveRequest _ .query .loading)).reports
  | refill active hactive =>
    exact ((store.tells_clear true).trans (tells_openQuery _ _ 0 .report)).reports
  | submit => exact ((store.tells_clear false).trans (tells_openQuery _ _ 0 .report)).reports
  | describe ids hsome =>
    have hclaimed : store.Tells { store with grid := (store.grid.claimRecords ids).2 } :=
      .of_act (.claimRecords ids) rfl trivial rfl (List.append_nil _).symm
    exact hclaimed.reports
  | thumbnails ids chunk => exact (store.tells_load .thumbnail ids chunk).reports
  | image id hin => exact (store.tells_load .full [id] 1).reports
  | followScroll entered exited =>
    exact ((store.tells_unload .thumbnail exited).trans (tells_load _ .thumbnail entered _)).reports
  | archive targets hbegin =>
    -- Archiving deselects what it archives, and says so last.
    exact (store.tells_moveRequest .download .loading).trans_reports
      ⟨_, plays_mark _ _ false, List.pairwise_singleton _ _⟩
  | delete targets hbegin => exact (store.tells_moveRequest .delete .loading).reports
  | edit update targets hbegin => exact (store.tells_moveRequest .metadataEdit .loading).reports
  | suggestCached texts hcached => exact (store.tells_offerCompletions _ texts).reports
  | suggestNone hcached hnone => exact (store.tells_offerCompletions _ []).reports
  | suggestPage hcached hwords hlimit => exact (Tells.refl store).reports

variable {store} in
theorem reports_resume {pending : Pending} {reply : Reply} {result : Store × Progress}
    (h : store.resume pending reply = some result)
    (hrun : ∀ run, pending.run? = some run → run.epoch = store.grid.epoch →
      store.grid.active.isSome) : store.Reports result.1 := by
  cases resumes_of_eq_some h with
  | page run page => exact (store.tells_mergePage run page (hrun run rfl)).reports
  | pageLost run failure => exact (store.tells_losePage run failure).reports
  | pageRecords run added claimed records =>
    exact ((store.tells_storeRecords claimed records).trans (tells_settlePage _ run added)).reports
  | pageRecordsLost run added claimed failure =>
    exact (((store.tells_giveUpRecords claimed).trans (tells_moveRequest _ .query _)).trans
      (tells_afterPage _ run _)).reports
  | records claimed records => exact (store.tells_storeRecords claimed records).reports
  | recordsLost claimed failure => exact (store.tells_giveUpRecords claimed).reports
  | contents load outcomes hlength =>
    have hsettled := tells_settleClaims load.facet (store, load.summary)
      (load.chunk.zip outcomes)
    exact (hsettled.trans (tells_nextChunk _ _)).reports
  | archive items => exact (store.tells_moveRequest .download _).reports
  | archiveLost items failure => exact (store.tells_moveRequest .download _).reports
  | delete targets => exact store.reports_deleted _ _
  | deleteLost targets failure => exact (store.tells_moveRequest .delete _).reports
  | edit targets update => exact (store.tells_rebuild _ update).reports
  | editLost targets update failure => exact (store.tells_moveRequest .metadataEdit _).reports
  | suggestNone search request fragments page hempty =>
    exact (store.tells_rememberSuggestions search []).reports
  | suggestPage search request fragments page hsome => exact (Tells.refl store).reports
  | suggestPageLost search request fragments failure => exact (Tells.refl store).reports
  | suggestRecords search refs fragments records =>
    exact (store.tells_rememberSuggestions search _).reports
  | suggestRecordsLost search refs fragments failure => exact (Tells.refl store).reports

end Store

namespace Service

/-- Every turn publishes the news of what it does to the grid. -/
theorem reports_turn {service : Service} (h : service.Covered) (turn : Turn) :
    service.store.Reports (service.turn turn).store := by
  cases turn with
  | command command => exact service.store.reports_obey command
  | start operation => exact Store.reports_begin (service.store.begins operation)
  | answer position reply =>
    simp only [Service.turn]
    split
    · exact (Store.Tells.refl _).reports
    · rename_i pending hpending
      split
      · exact (Store.Tells.refl _).reports
      · rename_i store progress hresume
        have hm := List.mem_of_getElem? hpending
        exact Store.reports_resume hresume fun run he => (h.runs pending hm run he).2

/-- The grid of a service is reached by a run of the grid, and the news of the run are what was
published. -/
theorem plays_run (config : Config) (draw : Nat → Uuid) (turns : List Turn) :
    ∃ actions, (Store.fresh config draw).Plays actions
      ((fresh config draw).run turns).store := by
  refine (run_keeps (motive := fun service => service.Covered ∧ ∃ actions,
    (Store.fresh config draw).Plays actions service.store) ?_
    ⟨covered_fresh config draw, [], Store.plays_nil rfl rfl⟩ turns).2
  rintro service turn ⟨hcovered, actions, hplays⟩
  obtain ⟨actions', hplays', -⟩ := reports_turn hcovered turn
  exact ⟨covered_turn service turn hcovered, _, hplays.trans hplays'⟩

/-- The grid of a service is consistent. -/
theorem consistent_store (config : Config) (draw : Nat → Uuid) (turns : List Turn) :
    ((fresh config draw).run turns).store.grid.Consistent := by
  obtain ⟨actions, hplays⟩ := plays_run config draw turns
  rw [hplays.grid]
  exact Grid.run_keeps Grid.consistent_act Grid.consistent_empty actions

/-- A subscriber who heard every event knows the grid. -/
theorem hearAll_published (config : Config) (draw : Nat → Uuid) (turns : List Turn) :
    Mirror.blank.hearAll ((fresh config draw).run turns).store.published =
      ((fresh config draw).run turns).store.grid.mirror := by
  obtain ⟨actions, hplays⟩ := plays_run config draw turns
  have hheard := Grid.hearAll_newsOf hplays.finds
  rw [← hplays.grid] at hheard
  rw [hplays.published]
  exact hheard

/-- The events tell everything about the grid. A subscriber who heard all events in order knows,
whenever the operations are suspended, the ids in view order, the flag and the loaded facets of
every entry, the states of the requests, the search text with its menu and completions, and
whether the dialog is open. Events are only ever added, and what a turn says of the selection
goes with the count after it. -/
theorem events_mirror_grid (config : Config) (draw : Nat → Uuid) (turns : List Turn) :
    let service := (fresh config draw).run turns
    let grid := service.store.grid
    let heard := Mirror.blank.hearAll service.store.published
    heard.entries.map (·.1) = grid.ids ∧
    (∀ id entry, grid.find? id = some entry → (id, entry.seen) ∈ heard.entries) ∧
    heard.requests = grid.requests ∧ heard.search = grid.search ∧ heard.menu = grid.menu ∧
    heard.completions = grid.completions ∧ heard.dialogOpen = grid.dialogOpen ∧
    ∀ turn, ∃ news,
      (service.turn turn).store.published = service.store.published ++ news ∧
      ∀ ids value count, .selected ids value count ∈ news →
        count = (service.turn turn).store.grid.selectionCount := by
  intro service grid heard
  have hheard : heard = grid.mirror := hearAll_published config draw turns
  rw [hheard]
  refine ⟨?_, fun id entry hentry => ?_, rfl, rfl, rfl, rfl, rfl, fun turn => ?_⟩
  · exact List.map_map.trans (List.map_id _)
  · have hin : grid.contains id = true := Grid.contains_iff.mpr ⟨entry, hentry⟩
    have hm := ((consistent_store config draw turns).mem_ids id).mpr hin
    refine List.mem_map.mpr ⟨id, hm, ?_⟩
    rw [Grid.see, hentry]
    rfl
  · obtain ⟨actions, hplays, hlast⟩ := reports_turn (covered_run config draw turns) turn
    refine ⟨_, hplays.published, fun ids value count hm => ?_⟩
    rw [hplays.grid]
    exact Grid.count_of_mem_newsOf hlast hm

end Service

end MediaGrid
