import MediaGrid.Proofs.Grid.Epochs
import MediaGrid.Proofs.Store.Requests
import MediaGrid.Proofs.Store.Waiting

/-!
# What an operation does to the query

Most operations of the store leave the epoch and the query alone. The others end the epoch, by
clearing the view or by beginning a query, or ask for a page of the query. This is shown for
every operation that starts or goes on, but for one that waits for a page of the epoch: such a
page is merged into the query or lost to it, and nothing else is asked for.
-/

namespace MediaGrid

namespace Grid

/-- The epoch and the query are the same. -/
structure SamePaging (before after : Grid) : Prop where
  /-- The epoch. -/
  epoch : after.epoch = before.epoch
  /-- The query. -/
  active : after.active = before.active

namespace SamePaging

variable {before middle after : Grid}

protected theorem refl (grid : Grid) : SamePaging grid grid := ⟨rfl, rfl⟩

protected theorem trans (h : SamePaging before middle) (h' : SamePaging middle after) :
    SamePaging before after :=
  ⟨h'.epoch.trans h.epoch, h'.active.trans h.active⟩

theorem of_sameUpTo {blank : Entry → Entry} (h : SameUpTo blank before after) :
    SamePaging before after :=
  ⟨h.epoch_eq, h.active_eq⟩

end SamePaging

end Grid

namespace Store

open Grid (SamePaging)

variable {store : Store}

/-! ## Operations that leave the query alone -/

theorem samePaging_moveRequest (store : Store) (kind : Request) (state : RequestStatus) :
    SamePaging store.grid (store.moveRequest kind state).grid := by
  rw [grid_moveRequest]
  exact ⟨rfl, rfl⟩

theorem samePaging_addAll (refs : List Artifact) :
    SamePaging store.grid (store.addAll refs).2.grid := by
  simp only [addAll, grid_publishFor]
  exact ⟨Grid.epoch_addAll _ _, Grid.active_addAll _ _⟩

theorem samePaging_unload (facet : ByteFacet) (ids : List ItemId) :
    SamePaging store.grid (store.unload facet ids).2.grid := by
  simp only [unload, grid_publishFor]
  exact .of_sameUpTo (store.grid.sameUpTo_unload facet ids)

theorem samePaging_discard (store : Store) (ids : List ItemId) :
    SamePaging store.grid (store.discard ids).2.grid := by
  simp only [discard, grid_publishFor]
  exact ⟨Grid.epoch_discard _ _, Grid.active_discard _ _⟩

theorem samePaging_amend (store : Store) (ids : List ItemId) (update : Metadata) :
    SamePaging store.grid (store.amend ids update).2.grid := by
  simp only [amend, grid_publishFor]
  exact .of_sameUpTo (store.grid.sameUpTo_amendRecords update ids)

theorem samePaging_mark (ids : Option (List ItemId)) (value : Bool) :
    SamePaging store.grid (store.mark ids value).2.grid := by
  obtain ⟨entries, count, hmark⟩ := store.grid.exists_mark ids value
  rw [grid_mark, hmark]
  exact ⟨rfl, rfl⟩

theorem samePaging_setDialog (isOpen : Bool) :
    SamePaging store.grid (store.setDialog isOpen).2.grid := by
  rw [setDialog, grid_commit, Grid.setDialog?]
  split <;> exact ⟨rfl, rfl⟩

theorem samePaging_setVideo (id : ItemId) (urls : Option VideoLinks) :
    SamePaging store.grid (store.setVideo id urls).2.grid := by
  rw [setVideo, grid_commit]
  cases h : store.grid.setVideo? id urls with
  | none => exact .refl _
  | some grid => exact .of_sameUpTo (Grid.sameUpTo_setVideo h)

theorem samePaging_showVideo (urlsOf : Artifact → Option VideoLinks) (id : ItemId) :
    SamePaging store.grid (store.showVideo urlsOf id).2.grid := by
  rcases store.showVideo_cases urlsOf id with ⟨hkept, -⟩ | ⟨-, urls, -, -, hset⟩
  · rw [hkept]
    exact .refl _
  · rw [hset]
    exact samePaging_setVideo id _

theorem samePaging_typeSearch (search : String) :
    SamePaging store.grid (store.typeSearch search).2.grid := by
  rw [typeSearch, grid_commit, Grid.setSearch?]
  split <;> exact ⟨rfl, rfl⟩

theorem samePaging_offerCompletions (store : Store) (search : String)
    (completions : List String) :
    SamePaging store.grid (store.offerCompletions search completions).grid := by
  unfold offerCompletions
  split
  · rw [grid_commit, Grid.setCompletions?]
    split <;> exact ⟨rfl, rfl⟩
  · exact .refl _

theorem samePaging_storeRecords (claimed : List (ItemId × Artifact))
    (records : List (Artifact × Metadata)) :
    SamePaging store.grid (store.storeRecords claimed records).2.grid := by
  simp only [storeRecords, grid_publishFor]
  exact .of_sameUpTo (store.grid.sameUpTo_settleRecords _ records)

theorem samePaging_giveUpRecords (claimed : List (ItemId × Artifact)) :
    SamePaging store.grid (store.giveUpRecords claimed).grid :=
  .of_sameUpTo (store.grid.sameUpTo_giveUpRecords _)

theorem samePaging_load (facet : ByteFacet) (ids : List ItemId) (size : Nat) :
    SamePaging store.grid (store.load facet ids size).1.grid := by
  have hclaim := store.grid.sameUpTo_claimAll facet ids
  rw [(store.load_eq facet ids size).1]
  exact ⟨hclaim.epoch_eq, hclaim.active_eq⟩

theorem samePaging_settleClaims (facet : ByteFacet) (state : Store × LoadTally)
    (settled : List ((Claim × Artifact) × Except Failure String)) :
    SamePaging state.1.grid (settleClaims facet state settled).1.grid := by
  induction settled generalizing state with
  | nil => exact .refl _
  | cons head rest ih =>
    refine .trans ?_ (ih (settleClaim facet state head.1.1 head.2))
    rcases grid_settleClaim facet state head.1.1 head.2 with ⟨-, slot, -, hgrid⟩ | ⟨-, hgrid⟩
    · rw [hgrid]
      exact ⟨rfl, rfl⟩
    · rw [hgrid]
      exact .refl _

theorem samePaging_afterPage (run : PageRun) (result : Except Failure (List ItemId)) :
    SamePaging store.grid (store.afterPage run result).1.grid := by
  unfold afterPage
  split
  · exact .refl _
  · exact (samePaging_amend _ _ _).trans (samePaging_moveRequest _ _ _)

theorem samePaging_settlePage (run : PageRun) (added : List ItemId) :
    SamePaging store.grid (store.settlePage run added).1.grid :=
  (store.samePaging_moveRequest .query .succeeded).trans (samePaging_afterPage run _)

theorem samePaging_rememberSuggestions (search : String) (completions : List String) :
    SamePaging store.grid (store.rememberSuggestions search completions).1.grid :=
  (store.remember search completions).samePaging_offerCompletions search completions

/-- Clearing the view ends the epoch, and drops the query or keeps it as it is. -/
theorem paging_clear (keepQuery : Bool) :
    (store.clear keepQuery).grid.epoch = store.grid.epoch + 1 ∧
      (store.clear keepQuery).grid.active = if keepQuery then store.grid.active else none := by
  unfold clear
  dsimp only
  split <;> exact ⟨rfl, rfl⟩

/-! ## Operations that ask for a page -/

/-- What an operation that ran as far as it gets did to the query, if no page of it came or
failed. -/
inductive Asks (before : Store) (result : Store × Progress) : Prop where
  /-- It left the query alone. -/
  | nothing (hsame : SamePaging before.grid result.1.grid)
    (hnone : ∀ run, .page run ∉ result.2.pendings)
  /-- It ended the epoch, and dropped the query or kept it as it was. -/
  | clears (hepoch : before.grid.epoch < result.1.grid.epoch)
    (hactive : result.1.grid.active = none ∨ result.1.grid.active = before.grid.active)
    (hnone : ∀ run, .page run ∉ result.2.pendings)
  /-- It began a query in a new epoch, and waits for its first page. -/
  | opens (run : PageRun) (hepoch : before.grid.epoch < result.1.grid.epoch)
    (hactive : result.1.grid.active =
      some ⟨run.request.predicates, run.request.page, false, run.request.page⟩)
    (hrun : run.epoch = result.1.grid.epoch) (hwaits : result.2.pendings = [.page run])
  /-- It waits for a further page of the query. -/
  | further (run : PageRun) (active : PagedQuery)
    (hepoch : result.1.grid.epoch = before.grid.epoch)
    (hactive : before.grid.active = some active) (hmore : active.hasMore = true)
    (hpage : active.page < run.request.page) (hrequested : active.requested < run.request.page)
    (hnext : result.1.grid.active = some { active with requested := run.request.page })
    (hrun : run.epoch = before.grid.epoch) (hwaits : result.2.pendings = [.page run])

/-- Beginning a query, perhaps after the view was cleared. -/
theorem asks_openQuery {before : Store} (hle : before.grid.epoch ≤ store.grid.epoch)
    (queries : List Query) (page : Nat) (purpose : Purpose) :
    before.Asks (store.openQuery queries page purpose) := by
  let opened : Store := { store with grid := (store.grid.openQuery queries page).2 }
  have hsame := opened.samePaging_moveRequest .query .loading
  have hepoch : (store.openQuery queries page purpose).1.grid.epoch = store.grid.epoch + 1 :=
    hsame.epoch
  let request : PageRequest := ⟨queries, store.config.orderings, store.config.resultsPerPage, page⟩
  exact .opens ⟨request, store.grid.epoch + 1, purpose⟩ (hepoch ▸ Nat.lt_succ_of_le hle)
    hsame.active hepoch.symm rfl

/-- A load waits for no page. -/
theorem asks_load {before : Store} (h : SamePaging before.grid store.grid) (facet : ByteFacet)
    (ids : List ItemId) (size : Nat) : before.Asks (store.load facet ids size) :=
  .nothing (h.trans (samePaging_load facet ids size)) fun run hm => by
    have hrun := (waits_nextChunk hm).1
    cases hrun

/-- What an operation that starts does to the query. -/
theorem asks_begin {operation : Operation} {result : Store × Progress}
    (h : store.Begins operation result) : store.Asks result := by
  have hwaits : ∀ {after : Store} {pending}, SamePaging store.grid after.grid →
      pending.run? = none → store.Asks (after, .waiting pending) := by
    intro after pending hsame hnone
    refine .nothing hsame fun run hm => ?_
    rw [← List.mem_singleton.mp hm] at hnone
    cases hnone
  cases h with
  | declined operation outcome hdeclines => exact .nothing (.refl _) fun _ => List.not_mem_nil
  | openQuery queries page => exact asks_openQuery (Nat.le_refl _) queries page .report
  | furtherPage page queries epoch grid hask =>
    obtain ⟨active, hactive, hmore, hpage, hrequested, hasked, rfl⟩ :=
      Grid.askFurther?_eq_some_iff.mp hask
    cases hasked
    let asked : Store := { store with grid := { store.grid with
      active := some { active with requested := page } } }
    have hsame := asked.samePaging_moveRequest .query .loading
    let request : PageRequest :=
      ⟨active.queries, store.config.orderings, store.config.resultsPerPage, page⟩
    exact .further ⟨request, store.grid.epoch, .report⟩ active hsame.epoch hactive hmore hpage
      hrequested hsame.active rfl rfl
  | refill active hactive =>
    have hclear := store.paging_clear true
    exact asks_openQuery (hclear.1 ▸ Nat.le_succ _) _ 0 .report
  | submit =>
    have hclear := store.paging_clear false
    exact asks_openQuery (hclear.1 ▸ Nat.le_succ _) _ 0 .report
  | describe ids hsome => exact hwaits (.of_sameUpTo (store.grid.sameUpTo_claimRecords ids)) rfl
  | thumbnails ids chunk => exact asks_load (.refl _) .thumbnail ids chunk
  | image id hin => exact asks_load (.refl _) .full [id] 1
  | followScroll entered exited => exact asks_load (samePaging_unload _ _) .thumbnail entered _
  | archive targets hbegin =>
    have hmoved := store.samePaging_moveRequest .download .loading
    exact hwaits (hmoved.trans (samePaging_mark _ false)) rfl
  | delete targets hbegin => exact hwaits (store.samePaging_moveRequest .delete .loading) rfl
  | edit update targets hbegin =>
    exact hwaits (store.samePaging_moveRequest .metadataEdit .loading) rfl
  | suggestCached texts hcached =>
    exact .nothing (store.samePaging_offerCompletions _ texts) fun _ => List.not_mem_nil
  | suggestNone hcached hnone =>
    exact .nothing (store.samePaging_offerCompletions _ []) fun _ => List.not_mem_nil
  | suggestPage hcached hwords hlimit => exact hwaits (.refl _) rfl

/-- An operation that ended asks for no page. -/
theorem Asks.done {before after : Store} (h : SamePaging before.grid after.grid)
    (outcome : Except Failure Outcome) : before.Asks (after, .done outcome) :=
  .nothing h fun _ => List.not_mem_nil

/-- A command asks for no page. -/
theorem asks_obey (command : Command) (outcome : Except Failure Outcome) :
    store.Asks (store.obey command, .done outcome) := by
  cases command with
  | clear keepQuery =>
    obtain ⟨hepoch, hactive⟩ := store.paging_clear keepQuery
    refine .clears (hepoch ▸ Nat.lt_succ_self _) ?_ fun _ => List.not_mem_nil
    cases keepQuery with
    | false => exact Or.inl hactive
    | true => exact Or.inr hactive
  | add refs => exact .done (samePaging_addAll refs) outcome
  | unload facet ids => exact .done (samePaging_unload facet ids) outcome
  | mark ids value => exact .done (samePaging_mark ids value) outcome
  | dialog isOpen => exact .done (samePaging_setDialog isOpen) outcome
  | showVideo urlsOf id => exact .done (samePaging_showVideo urlsOf id) outcome
  | hideVideo id => exact .done (samePaging_setVideo id none) outcome
  | typeSearch search => exact .done (samePaging_typeSearch search) outcome
  | pick completion => exact .done (samePaging_typeSearch _) outcome

/-- What comes after a page asks for none. -/
theorem asks_afterPage {before : Store} (h : SamePaging before.grid store.grid) (run : PageRun)
    (result : Except Failure (List ItemId)) : before.Asks (store.afterPage run result) :=
  .nothing (h.trans (samePaging_afterPage run result)) fun other hm => by
    rw [pendings_afterPage] at hm
    cases hm

/-- After an edit the view is cleared, and the query is begun again if there is one. -/
theorem asks_rebuild (ids : List ItemId) (update : Metadata) :
    store.Asks (store.rebuild ids update) := by
  have hdialog : SamePaging store.grid (store.setDialog false).2.forget.grid :=
    samePaging_setDialog false
  unfold rebuild
  dsimp only
  generalize (store.setDialog false).2.forget = closed at hdialog ⊢
  have hunloaded := (hdialog.trans (samePaging_unload .thumbnail closed.grid.ids)).trans
    (samePaging_unload .full closed.grid.ids)
  generalize ((closed.unload .thumbnail closed.grid.ids).2.unload .full closed.grid.ids).2 =
    unloaded at hunloaded ⊢
  obtain ⟨hepoch, hactive⟩ := unloaded.paging_clear true
  rw [hunloaded.epoch] at hepoch
  split
  · have hfinish := ((unloaded.clear true).samePaging_amend ids update).trans
      (samePaging_moveRequest _ .metadataEdit .succeeded)
    rename_i hnone
    have hend : ((unloaded.clear true).finishEdit ids update).1.grid.epoch =
        store.grid.epoch + 1 := hfinish.epoch.trans hepoch
    exact .clears (hend ▸ Nat.lt_succ_self _) (Or.inl (hfinish.active.trans hnone))
      fun _ => List.not_mem_nil
  · exact asks_openQuery (hepoch ▸ Nat.le_succ _) _ 0 _

/-- What an operation that goes on does to the query, if it waited for no page of the epoch. -/
theorem asks_resume {pending : Pending} {reply : Reply} {result : Store × Progress}
    (h : store.resume pending reply = some result)
    (hother : ∀ run, pending = .page run → run.epoch ≠ store.grid.epoch) :
    store.Asks result := by
  have hmoved : ∀ {middle : Store} (kind : Request) (state : RequestStatus),
      SamePaging store.grid middle.grid →
      SamePaging store.grid (middle.moveRequest kind state).grid :=
    fun kind state hmiddle => hmiddle.trans (samePaging_moveRequest _ kind state)
  cases resumes_of_eq_some h with
  | page run page =>
    rw [mergePage, Grid.mergePage, if_pos (hother run rfl)]
    exact asks_afterPage (.refl _) run _
  | pageLost run failure =>
    rw [losePage, Grid.withdrawPage?, if_pos (hother run rfl)]
    exact asks_afterPage (.refl _) run _
  | pageRecords run added claimed records =>
    exact asks_afterPage (hmoved .query _ (samePaging_storeRecords claimed records)) run _
  | pageRecordsLost run added claimed failure =>
    exact asks_afterPage (hmoved .query _ (samePaging_giveUpRecords claimed)) run _
  | records claimed records => exact .done (samePaging_storeRecords claimed records) _
  | recordsLost claimed failure => exact .done (samePaging_giveUpRecords claimed) _
  | contents load outcomes hlength =>
    have hsettled := samePaging_settleClaims load.facet (store, load.summary)
      (load.chunk.zip outcomes)
    refine .nothing ?_ fun run hm => ?_
    · rw [settleChunk, (nextChunk_eq _ _).1]
      exact hsettled
    · have hrun := (waits_nextChunk hm).1
      cases hrun
  | archive items => exact .done (hmoved .download _ (.refl _)) _
  | archiveLost items failure => exact .done (hmoved .download _ (.refl _)) _
  | delete targets =>
    have hdiscarded := store.forget.samePaging_discard (targets.map (·.1))
    exact .done (hmoved .delete _ hdiscarded) _
  | deleteLost targets failure => exact .done (hmoved .delete _ (.refl _)) _
  | edit targets update => exact asks_rebuild _ update
  | editLost targets update failure => exact .done (hmoved .metadataEdit _ (.refl _)) _
  | suggestNone search request fragments page hempty =>
    exact .done (samePaging_rememberSuggestions search []) _
  | suggestPage search request fragments page hsome =>
    refine .nothing (.refl _) fun run hm => ?_
    cases List.mem_singleton.mp hm
  | suggestPageLost search request fragments failure => exact .done (.refl _) _
  | suggestRecords search refs fragments records =>
    exact .done (samePaging_rememberSuggestions search _) _
  | suggestRecordsLost search refs fragments failure => exact .done (.refl _) _

/-! ## A page of the epoch -/

/-- The store after a page was merged and published. -/
def merged (store : Store) (news : Grid.Merged) (grid : Grid) : Store :=
  ({ store with grid := grid }.publishFor news.added .added).publish
    (.pageMerged news.page news.hasMore)

theorem grid_merged (store : Store) (news : Grid.Merged) (grid : Grid) :
    (store.merged news grid).grid = grid :=
  grid_publishFor _ _ _

/-- A page that is merged has the metadata of what it added claimed. Its run ends if there is none
to read, and else waits for it. -/
theorem mergePage_of_some {run : PageRun} {page : Page} {news : Grid.Merged} {grid : Grid}
    (h : store.grid.mergePage run.epoch page = (some news, grid)) :
    store.mergePage run page =
      let described :=
        { store.merged news grid with grid := (grid.claimRecords news.added).2 }
      if (grid.claimRecords news.added).1 = [] then described.settlePage run news.added
      else
        (described, .waiting (.pageRecords run news.added (grid.claimRecords news.added).1)) := by
  have hgrid := store.grid_merged news grid
  rw [mergePage, h]
  dsimp only
  rw [← merged, hgrid]
  simp only [List.isEmpty_iff]

/-- A page of the epoch is merged into the query, and no other is asked for. -/
theorem resume_page_ok {run : PageRun} {active : PagedQuery}
    (hepoch : run.epoch = store.grid.epoch) (hactive : store.grid.active = some active)
    {page : Page} {result : Store × Progress}
    (h : store.resume (.page run) (.page (.ok page)) = some result) :
    result.1.grid.epoch = store.grid.epoch ∧
      result.1.grid.active = some (active.merged page) ∧
      ∀ other, .page other ∉ result.2.pendings := by
  let news : Grid.Merged :=
    ⟨store.grid.unseen page.refs, (active.merged page).page, (active.merged page).hasMore⟩
  let grid : Grid := { (store.grid.addAll page.refs).2 with active := some (active.merged page) }
  let described : Store :=
    { store.merged news grid with grid := (grid.claimRecords news.added).2 }
  have hmerge : store.grid.mergePage run.epoch page = (some news, grid) :=
    hepoch ▸ Grid.mergePage_current hactive page
  have hadded : grid.epoch = store.grid.epoch := Grid.epoch_addAll store.grid page.refs
  have hdescribed : SamePaging grid described.grid :=
    .of_sameUpTo (grid.sameUpTo_claimRecords news.added)
  cases Option.some.inj (show some (store.mergePage run page) = some result from h)
  rw [mergePage_of_some hmerge]
  by_cases hnone : (grid.claimRecords news.added).1 = []
  · have hsettled := hdescribed.trans (samePaging_settlePage run news.added)
    rw [if_pos hnone]
    refine ⟨hsettled.epoch.trans hadded, hsettled.active, fun other hm => ?_⟩
    rw [settlePage, pendings_afterPage] at hm
    cases hm
  · rw [if_neg hnone]
    refine ⟨hdescribed.epoch.trans hadded, hdescribed.active, fun other hm => ?_⟩
    cases List.mem_singleton.mp hm

/-- A page of the epoch that failed is taken back, and no other is asked for. -/
theorem resume_page_error {run : PageRun} {active : PagedQuery}
    (hepoch : run.epoch = store.grid.epoch) (hactive : store.grid.active = some active)
    {failure : Failure} {result : Store × Progress}
    (h : store.resume (.page run) (.page (.error failure)) = some result) :
    result.1.grid.epoch = store.grid.epoch ∧
      result.1.grid.active = some { active with requested := active.page } ∧
      ∀ other, .page other ∉ result.2.pendings := by
  let withdrawn : Store := { store with grid := { store.grid with
    active := some { active with requested := active.page } } }
  have hwithdraw : store.grid.withdrawPage? run.epoch = some withdrawn.grid := by
    rw [hepoch, Grid.withdrawPage?, if_neg fun hne => hne rfl, hactive]
    rfl
  cases Option.some.inj (show some (store.losePage run failure) = some result from h)
  have hfailed := withdrawn.samePaging_moveRequest .query (.failed failure.message)
  have hended := hfailed.trans (samePaging_afterPage run (.error failure))
  rw [losePage, hwithdraw]
  refine ⟨hended.epoch, hended.active, fun other hm => ?_⟩
  rw [pendings_afterPage] at hm
  cases hm

end Store

end MediaGrid
