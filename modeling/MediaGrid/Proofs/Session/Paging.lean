import MediaGrid.Proofs.Store.Listing
import MediaGrid.Proofs.Store.Paging
import MediaGrid.Session.Basic

/-!
# Paging through a query to its end

While no call is held back and the collection does not fail, an operation that asks for a page is
over within its step: the page is answered and merged, and the metadata of what it added is read.
From an empty view, a query that is begun and continued for as long as pages remain asks for each
page once, and ends with a grid that lists all artifacts that meet the query. The session is alone
with its collection; operations that overlap are treated elsewhere.
-/

namespace MediaGrid

/-! ## What the collection answers -/

namespace Collection

variable {collection : Collection}

/-- The page that a collection answers which does not fail. -/
def pageFor (collection : Collection) (request : PageRequest) : Page :=
  let refs := collection.matching request.predicates
  let start := request.page * request.resultsPerPage
  ⟨(refs.drop start).take request.resultsPerPage, request.page,
    refs.length ≤ start + request.resultsPerPage⟩

theorem check_of_failing (hfailing : collection.failing = []) (point : FaultPoint) :
    collection.check point = .ok () := by
  rw [check, hfailing, if_neg List.not_mem_nil]

/-- A request for pages of some size is answered. -/
theorem answer_eq_pageFor (hfailing : collection.failing = []) {request : PageRequest}
    (hpages : 0 < request.resultsPerPage) :
    collection.answer request = .ok (collection.pageFor request) := by
  rw [answer, check_of_failing hfailing]
  simp [Nat.ne_of_gt hpages, bind, Except.bind, pure, Except.pure, pageFor]

/-- A query that is counted and answered. -/
theorem perform_query (hfailing : collection.failing = []) {request : PageRequest}
    (hpages : 0 < request.resultsPerPage) :
    collection.perform (.query request) = (some (.page (.ok (collection.pageFor request))),
      { collection with
        counts := { collection.counts with query := collection.counts.query + 1 } }) := by
  rw [perform, query, answer_eq_pageFor hfailing hpages]

/-- A reading of metadata that is counted and answered. -/
theorem perform_readRecords (collection : Collection) (hfailing : collection.failing = [])
    (claimed : List (ItemId × Artifact)) :
    collection.perform (.readRecords (claimed.map (·.2))) =
      (some (.records (.ok (Grid.recordsFor collection claimed))),
        { collection with
          counts := { collection.counts with
            readRecords := collection.counts.readRecords + 1 } }) := by
  have hrecords : collection.records (claimed.map (·.2)) =
      .ok (Grid.recordsFor collection claimed) := by
    rw [records, check_of_failing hfailing]
    rfl
  rw [perform, readRecords, hrecords]

/-- The artifacts of a page stand behind those of the pages before it. -/
theorem take_append_pageFor (collection : Collection) (request : PageRequest) :
    (collection.matching request.predicates).take (request.page * request.resultsPerPage) ++
        (collection.pageFor request).refs =
      (collection.matching request.predicates).take
        ((request.page + 1) * request.resultsPerPage) := by
  rw [Nat.succ_mul, List.take_add]
  rfl

/-- A query that asked for the page last says, once it is merged, whether artifacts lie behind
it. -/
theorem merged_pageFor (collection : Collection) {request : PageRequest} {active : PagedQuery}
    (hqueries : active.queries = request.predicates) (hpage : active.page ≤ request.page)
    (hrequested : active.requested = request.page) :
    active.merged (collection.pageFor request) = ⟨request.predicates, request.page,
      decide ((request.page + 1) * request.resultsPerPage <
        (collection.matching request.predicates).length), request.page⟩ := by
  have hlast : max active.page request.page = request.page := Nat.max_eq_right hpage
  simp only [PagedQuery.merged, pageFor, hqueries, hlast, hrequested, Nat.max_self, Nat.succ_mul,
    PagedQuery.mk.injEq, true_and, and_true]
  rw [← decide_not, decide_eq_decide, Nat.not_le]

/-- An artifact that meets a query has a row. -/
theorem isSome_row?_of_matching {queries : List Query} {ref : Artifact}
    (h : ref ∈ collection.matching queries) : (collection.row? ref).isSome = true := by
  obtain ⟨row, hrow, rfl⟩ := List.mem_map.mp h
  rw [row?, List.isSome_find?]
  exact List.any_eq_true.mpr ⟨row, (List.mem_filter.mp hrow).1, beq_self_eq_true _⟩

end Collection

/-! ## A page and its metadata -/

namespace Store

variable {store : Store} {run : PageRun} {active : PagedQuery}

theorem config_publishFor (store : Store) (ids : List ItemId) (event : List ItemId → Event) :
    (store.publishFor ids event).config = store.config := by
  unfold publishFor
  split <;> rfl

theorem config_merged (store : Store) (news : Grid.Merged) (grid : Grid) :
    (store.merged news grid).config = store.config :=
  config_publishFor _ _ _

theorem config_moveRequest (store : Store) (kind : Request) (state : RequestStatus) :
    (store.moveRequest kind state).config = store.config := by
  unfold moveRequest commit
  split <;> rfl

/-- A page that is settled is reported, if nothing is to follow it. -/
theorem settlePage_of_report {run : PageRun} (h : run.purpose = .report) (store : Store)
    (added : List ItemId) :
    store.settlePage run added =
      (store.moveRequest .query .succeeded, .done (.ok (.ids added))) := by
  rw [settlePage, afterPage, h]
  rfl

end Store

namespace Session

variable {session : Session}

/-- Where no kind of call is held back, every call is sent. -/
theorem makeCall_of_holding (session : Session) (hholding : session.holding = []) (call : Call) :
    session.makeCall call =
      (.sent call, { session with log := session.log ++ [⟨call, none⟩] }) := by
  rw [makeCall, hholding, if_neg List.not_mem_nil]

/-- A call that was sent is answered. -/
theorem moveCalls_sent {call : Call} {reply : Reply} {collection : Collection}
    (h : session.collection.perform call = (some reply, collection)) :
    session.moveCalls [.sent call] = ([.answered reply], { session with collection }) := by
  cases call with
  | fetch ref facet => cases h
  | _ => simp [moveCalls, moveEach, moveIn, moveOut, h]

section

variable {task : Task} {call : Call} {reply : Reply} {collection : Collection} {store : Store}

/-- A task whose only call was sent ends with the answer, if it needs no other. -/
theorem advance_done (hcalls : task.calls = [.sent call])
    (hperform : session.collection.perform call = (some reply, collection))
    {result : Except Failure Outcome}
    (hresume : session.store.resume task.pending reply = some (store, .done result)) (fuel : Nat) :
    session.advance (fuel + 1) task =
      (.inr (answerOf task.scroll result), { session with store, collection }) := by
  have hreply : Task.reply? { task with calls := [.answered reply] } = some reply := by
    cases reply <;> rfl
  rw [advance, hcalls, moveCalls_sent hperform]
  dsimp only
  rw [hreply, Option.bind_eq_bind, Option.bind_some, hresume]

/-- A task whose only call was sent goes on to its next call with the answer. -/
theorem advance_next (hcalls : task.calls = [.sent call])
    (hperform : session.collection.perform call = (some reply, collection)) {pending : Pending}
    (hresume : session.store.resume task.pending reply = some (store, .waiting pending))
    {next : Call} (hnext : pending.calls = [next]) (hholding : session.holding = [])
    (fuel : Nat) :
    session.advance (fuel + 1) task =
      advance fuel { session with store, collection, log := session.log ++ [⟨next, none⟩] }
        { task with pending, calls := [.sent next] } := by
  have hreply : Task.reply? { task with calls := [.answered reply] } = some reply := by
    cases reply <;> rfl
  have hmade : moveEach makeCall { session with store, collection } [next] =
      ([.sent next],
        { session with store, collection, log := session.log ++ [⟨next, none⟩] }) := by
    rw [moveEach, makeCall_of_holding { session with store, collection } hholding]
    rfl
  rw [advance, hcalls, moveCalls_sent hperform]
  dsimp only
  rw [hreply, Option.bind_eq_bind, Option.bind_some, hresume]
  dsimp only
  rw [hnext, hmade]

end

/-- The grid after a page was merged, and the metadata of what it added was read. -/
def filled (grid : Grid) (active : PagedQuery) (collection : Collection) (page : Page) : Grid :=
  Grid.describe collection
    { (grid.addAll page.refs).2 with active := some (active.merged page) } (grid.unseen page.refs)

/-- A task that asked for a page of the epoch runs to its end. The page is merged, the metadata of
what it added is read, and the ids of that are returned. -/
theorem run_page (session : Session) {run : PageRun} {active : PagedQuery}
    (hpurpose : run.purpose = .report)
    (hepoch : run.epoch = session.store.grid.epoch)
    (hactive : session.store.grid.active = some active) (hholding : session.holding = [])
    (hfailing : session.collection.failing = []) (hperPage : 0 < run.request.resultsPerPage)
    (number : Nat) (scroll : Option (List ItemId × List ItemId)) :
    ∃ store counts log,
      session.run ⟨number, .page run, [.sent (.query run.request)], scroll⟩ =
        (.inr (answerOf scroll (.ok (.ids
            (session.store.grid.unseen (session.collection.pageFor run.request).refs)))),
          { session with store, collection := { session.collection with counts }, log }) ∧
      counts.query = session.collection.counts.query + 1 ∧
      store.config = session.store.config ∧
      store.grid =
        { filled session.store.grid active session.collection
            (session.collection.pageFor run.request) with
          requests := session.store.grid.requests.set .query .succeeded } := by
  let page := session.collection.pageFor run.request
  let news : Grid.Merged :=
    ⟨session.store.grid.unseen page.refs, (active.merged page).page, (active.merged page).hasMore⟩
  let grid : Grid :=
    { (session.store.grid.addAll page.refs).2 with active := some (active.merged page) }
  let described : Store :=
    { session.store.merged news grid with grid := (grid.claimRecords news.added).2 }
  let asked : Collection := { session.collection with
    counts := { session.collection.counts with query := session.collection.counts.query + 1 } }
  have hquery : session.collection.perform (.query run.request) =
      (some (.page (.ok page)), asked) := Collection.perform_query hfailing hperPage
  have hmerge : session.store.grid.mergePage run.epoch page = (some news, grid) := by
    rw [hepoch]
    exact Grid.mergePage_current hactive page
  have hresume : session.store.resume (.page run) (.page (.ok page)) =
      some (session.store.mergePage run page) := rfl
  rw [Store.mergePage_of_some hmerge] at hresume
  have hconfig : described.config = session.store.config :=
    session.store.config_merged news grid
  have hrequests : described.grid.requests = session.store.grid.requests := by
    rw [(grid.sameUpTo_claimRecords news.added).requests_eq]
    exact Grid.requests_addAll _ _
  rw [Session.run, Pending.rounds]
  by_cases hnone : (grid.claimRecords news.added).1 = []
  · -- Nothing was added, so there is no metadata to read.
    rw [if_pos hnone, Store.settlePage_of_report hpurpose] at hresume
    refine ⟨_, _, _, advance_done rfl hquery hresume _, rfl, ?_, ?_⟩
    · rw [Store.config_moveRequest]
      exact hconfig
    · have hgrid : described.grid = filled session.store.grid active session.collection page :=
        (Grid.describe_of_nil hnone).symm
      rw [Store.grid_moveRequest, ← hrequests, ← hgrid]
  · rw [if_neg hnone] at hresume
    let records := Grid.recordsFor session.collection (grid.claimRecords news.added).1
    let settled := (described.storeRecords (grid.claimRecords news.added).1 records).2
    have hread := asked.perform_readRecords hfailing (grid.claimRecords news.added).1
    have hend : described.resume (.pageRecords run news.added (grid.claimRecords news.added).1)
        (.records (.ok records)) =
        some (settled.moveRequest .query .succeeded, .done (.ok (.ids news.added))) :=
      congrArg some (Store.settlePage_of_report hpurpose settled news.added)
    have hgrid : settled.grid = filled session.store.grid active session.collection page :=
      Store.grid_publishFor _ _ _
    have hsame : settled.grid.requests = session.store.grid.requests := by
      rw [Store.requests_storeRecords, hrequests]
    rw [advance_next rfl hquery hresume rfl hholding]
    refine ⟨_, _, _, advance_done rfl hread hend _, rfl, ?_, ?_⟩
    · rw [Store.config_moveRequest, ← hconfig]
      exact Store.config_publishFor _ _ _
    · rw [Store.grid_moveRequest, ← hsame, ← hgrid]

/-- An operation that asks for a page of the epoch is over within its step. -/
theorem start_page {operation : Operation} {store : Store} (run : PageRun) {active : PagedQuery}
    (hbegin : session.store.begin operation = (store, .waiting (.page run)))
    (hpurpose : run.purpose = .report) (hepoch : run.epoch = store.grid.epoch)
    (hactive : store.grid.active = some active) (hholding : session.holding = [])
    (hfailing : session.collection.failing = []) (hperPage : 0 < run.request.resultsPerPage) :
    ∃ final counts nextTask log,
      session.start operation none =
        (.result (.ok (.ids (store.grid.unseen (session.collection.pageFor run.request).refs))),
          { session with
            store := final
            collection := { session.collection with counts }
            nextTask
            log }) ∧
      counts.query = session.collection.counts.query + 1 ∧ final.config = store.config ∧
      final.grid =
        { filled store.grid active session.collection
            (session.collection.pageFor run.request) with
          requests := store.grid.requests.set .query .succeeded } := by
  let asking : Session :=
    { session with
      store
      nextTask := session.nextTask + 1
      log := session.log ++ [⟨.query run.request, none⟩] }
  have hmade : moveEach makeCall { session with store, nextTask := session.nextTask + 1 }
      (Pending.page run).calls = ([.sent (.query run.request)], asking) := by
    simp only [Pending.calls, moveEach]
    rw [makeCall_of_holding { session with store, nextTask := session.nextTask + 1 } hholding]
  obtain ⟨final, counts, log, hrun, hcounts, hconfig, hgrid⟩ :=
    asking.run_page hpurpose hepoch hactive hholding hfailing hperPage
      session.nextTask none
  refine ⟨final, counts, session.nextTask + 1, log, ?_, hcounts, hconfig, hgrid⟩
  rw [start, hbegin]
  dsimp only
  rw [hmade]
  dsimp only
  rw [hrun]
  rfl

/-! ## From page to page -/

/-- A session has gone on from another one with nothing left to do: nothing waits and nothing is
held back, and the configuration and what the collection keeps are as they were. -/
structure GoneOn (first session : Session) : Prop where
  /-- The configuration. -/
  config : session.store.config = first.store.config
  /-- The collection, but for its counts. -/
  collection : session.collection =
    { first.collection with counts := session.collection.counts }
  /-- No kind of call is held back. -/
  holding : session.holding = []
  /-- Nothing waits. -/
  tasks : session.tasks = []

namespace GoneOn

variable {first : Session}

theorem failing_eq (h : first.GoneOn session) :
    session.collection.failing = first.collection.failing := by
  rw [h.collection]

theorem matching_eq (h : first.GoneOn session) (queries : List Query) :
    session.collection.matching queries = first.collection.matching queries := by
  rw [h.collection]
  rfl

theorem recordOf?_eq (h : first.GoneOn session) :
    session.collection.recordOf? = first.collection.recordOf? := by
  rw [h.collection]
  rfl

end GoneOn

/-- A session shows the first pages of a query, up to a page: it lists their artifacts, it notes
whether pages remain, and each page was asked for once. -/
structure Shows (first : Session) (queries : List Query) (page : Nat) (session : Session) : Prop
    extends first.GoneOn session where
  /-- The artifacts of the pages are listed. -/
  lists : session.store.grid.Lists
    ((first.collection.matching queries).take ((page + 1) * first.store.config.resultsPerPage))
    first.collection.recordOf?
  /-- The query is active, and its last page is the one asked for last. -/
  active : session.store.grid.active = some ⟨queries, page,
    decide ((page + 1) * first.store.config.resultsPerPage <
      (first.collection.matching queries).length), page⟩
  /-- Each page was asked for once. -/
  asked : session.collection.counts.query = first.collection.counts.query + (page + 1)

variable {first : Session} {queries : List Query} {page : Nat}

/-- An operation that asks for the page behind those that are listed shows it. -/
theorem shows_of_begin (hfailing : first.collection.failing = [])
    (hperPage : 0 < first.store.config.resultsPerPage) (hgone : first.GoneOn session)
    {operation : Operation} (grid : Grid) {active : PagedQuery}
    (hbegin : session.store.begin operation =
      { session.store with grid := grid }.askPage queries page grid.epoch .report)
    (hactive : grid.active = some active) (hqueries : active.queries = queries)
    (hpage : active.page ≤ page) (hrequested : active.requested = page)
    (hlists : grid.Lists
      ((first.collection.matching queries).take (page * first.store.config.resultsPerPage))
      first.collection.recordOf?)
    (hasked : session.collection.counts.query = first.collection.counts.query + page) :
    first.Shows queries page (session.step (.start operation)).2 := by
  let request : PageRequest :=
    ⟨queries, session.store.config.orderings, session.store.config.resultsPerPage, page⟩
  let store := { session.store with grid := grid }.moveRequest .query .loading
  have hgrid : store.grid = { grid with requests := grid.requests.set .query .loading } :=
    Store.grid_moveRequest _ _ _
  have hconfig : store.config = session.store.config := Store.config_moveRequest _ _ _
  have hepoch : grid.epoch = store.grid.epoch := by rw [hgrid]
  have hstoreActive : store.grid.active = some active := by rw [hgrid, ← hactive]
  have hsize : request.resultsPerPage = first.store.config.resultsPerPage := by
    rw [← hgone.config]
  obtain ⟨final, counts, nextTask, log, hfinal, hcounts, hfinalConfig, hfinalGrid⟩ :=
    start_page ⟨request, grid.epoch, .report⟩ hbegin rfl hepoch hstoreActive hgone.holding
      (hgone.failing_eq.trans hfailing) (hsize ▸ hperPage)
  obtain ⟨channel, delivered, hstep⟩ : ∃ channel delivered,
      (session.step (.start operation)).2 =
        { (session.start operation none).2 with channel, delivered, log := [] } := ⟨_, _, rfl⟩
  have hlisted : store.grid.Lists
      ((first.collection.matching queries).take (page * first.store.config.resultsPerPage))
      session.collection.recordOf? := by
    rw [hgrid, hgone.recordOf?_eq]
    exact ⟨hlists.ids, hlists.shown, hlists.described⟩
  have hmore : ∀ ref ∈ (session.collection.pageFor request).refs,
      (session.collection.row? ref).isSome = true := fun ref href =>
    Collection.isSome_row?_of_matching (List.mem_of_mem_drop (List.mem_of_mem_take href))
  have hrefs : (first.collection.matching queries).take
        (page * first.store.config.resultsPerPage) ++ (session.collection.pageFor request).refs =
      (first.collection.matching queries).take
        ((page + 1) * first.store.config.resultsPerPage) := by
    rw [← hgone.matching_eq, ← hsize]
    exact session.collection.take_append_pageFor request
  have hmerged : active.merged (session.collection.pageFor request) = ⟨queries, page,
      decide ((page + 1) * first.store.config.resultsPerPage <
        (first.collection.matching queries).length), page⟩ := by
    rw [← hgone.matching_eq, ← hsize]
    exact session.collection.merged_pageFor hqueries hpage hrequested
  have hnext := hlisted.page hmore (some (active.merged (session.collection.pageFor request)))
  rw [hrefs, hgone.recordOf?_eq] at hnext
  rw [hstep, hfinal]
  exact {
    config := hfinalConfig.trans (hconfig.trans hgone.config)
    collection := by
      rw [hgone.collection]
    holding := hgone.holding
    tasks := hgone.tasks
    lists := by
      rw [hfinalGrid]
      exact ⟨hnext.ids, hnext.shown, hnext.described⟩
    active := by
      rw [hfinalGrid, ← hmerged]
      exact (Grid.sameUpTo_describe _ _).active_eq
    asked := by
      rw [hcounts, hasked]
      rfl }

/-- Beginning a query over an empty view shows its first page. -/
theorem shows_openQuery (hids : first.store.grid.ids = [])
    (hentries : first.store.grid.entries = .empty) (htasks : first.tasks = [])
    (hholding : first.holding = []) (hfailing : first.collection.failing = [])
    (hperPage : 0 < first.store.config.resultsPerPage) (queries : List Query) :
    first.Shows queries 0 (first.step (.start (.openQuery queries 0))).2 := by
  have hgone : first.GoneOn first := ⟨rfl, rfl, hholding, htasks⟩
  refine shows_of_begin hfailing hperPage hgone (first.store.grid.openQuery queries 0).2
    rfl rfl rfl (Nat.le_refl 0) rfl ?_ rfl
  rw [Nat.zero_mul, List.take_zero]
  exact Grid.lists_nil hids hentries

/-- Where pages remain, asking for the next page shows it. -/
theorem Shows.furtherPage (h : first.Shows queries page session)
    (hfailing : first.collection.failing = []) (hperPage : 0 < first.store.config.resultsPerPage)
    (hmore : (page + 1) * first.store.config.resultsPerPage <
      (first.collection.matching queries).length) :
    first.Shows queries (page + 1)
      (session.step (.start (.furtherPage (page + 1)))).2 := by
  have hactive := h.active
  rw [decide_eq_true hmore] at hactive
  have hask : session.store.grid.askFurther? (page + 1) =
      some ((queries, session.store.grid.epoch),
        { session.store.grid with active := some ⟨queries, page, true, page + 1⟩ }) := by
    simp [Grid.askFurther?, hactive]
  have hbegin : session.store.begin (.furtherPage (page + 1)) =
      { session.store with
        grid := { session.store.grid with active := some ⟨queries, page, true, page + 1⟩ }
        }.askPage queries (page + 1) session.store.grid.epoch .report := by
    rw [Store.begin, Store.askFurther, hask]
  exact shows_of_begin hfailing hperPage h.toGoneOn _ hbegin rfl rfl (Nat.le_succ page) rfl
    ⟨h.lists.ids, h.lists.shown, h.lists.described⟩ h.asked

/-! ## To the last page -/

/-- Whether pages of the query remain. -/
def hasMore (session : Session) : Bool := session.store.grid.active.any (·.hasMore)

/-- A session pages on from a page to where no pages remain: for as long as pages remain, it asks
for the next one. -/
inductive PagesOn : Nat → Session → Session → Prop where
  /-- No pages remain. -/
  | ends {page : Nat} {session : Session} (hends : session.hasMore = false) :
    PagesOn page session session
  /-- The next page is asked for. -/
  | asks {page : Nat} {session final : Session} (hmore : session.hasMore = true)
    (hrest : PagesOn (page + 1) (session.step (.start (.furtherPage page))).2 final) :
    PagesOn page session final

/-- Paging on leads to one end. -/
theorem PagesOn.unique {page : Nat} {session final other : Session}
    (h : PagesOn page session final) (h' : PagesOn page session other) : other = final := by
  induction h with
  | ends hends =>
    cases h' with
    | ends _ => rfl
    | asks hmore _ => exact absurd (hmore.symm.trans hends) Bool.noConfusion
  | asks hmore _ ih =>
    cases h' with
    | ends hends => exact absurd (hmore.symm.trans hends) Bool.noConfusion
    | asks _ hrest => exact ih hrest

theorem Shows.hasMore_iff (h : first.Shows queries page session) : session.hasMore = true ↔
    (page + 1) * first.store.config.resultsPerPage <
      (first.collection.matching queries).length := by
  rw [hasMore, h.active, Option.any_some, decide_eq_true_eq]

/-- From a page that is shown, paging on leads to the last page, which is the first one that no
artifact lies behind. -/
theorem Shows.pagesOn (hfailing : first.collection.failing = [])
    (hperPage : 0 < first.store.config.resultsPerPage) (h : first.Shows queries page session)
    (hbefore : page = 0 ∨ page * first.store.config.resultsPerPage <
      (first.collection.matching queries).length) :
    ∃ last final, PagesOn (page + 1) session final ∧ first.Shows queries last final ∧
      final.hasMore = false ∧ (last = 0 ∨ last * first.store.config.resultsPerPage <
        (first.collection.matching queries).length) := by
  generalize hleft : (first.collection.matching queries).length -
    page * first.store.config.resultsPerPage = left
  induction left using Nat.strongRecOn generalizing page session with
  | ind left ih =>
    cases hmore : session.hasMore with
    | false => exact ⟨page, session, .ends hmore, h, hmore, hbefore⟩
    | true =>
      have hlt := h.hasMore_iff.mp hmore
      have hless : (first.collection.matching queries).length -
          (page + 1) * first.store.config.resultsPerPage < left := by
        rw [Nat.succ_mul] at hlt ⊢
        omega
      obtain ⟨last, final, hrest, hshows⟩ :=
        ih _ hless (h.furtherPage hfailing hperPage hlt) (Or.inr hlt) rfl
      exact ⟨last, final, .asks hmore hrest, hshows⟩

/-- The number of pages is one more than the number of the last one. -/
theorem pages_eq {count perPage last : Nat} (hperPage : 0 < perPage)
    (hends : count ≤ (last + 1) * perPage) (hbefore : last = 0 ∨ last * perPage < count) :
    max 1 ((count + perPage - 1) / perPage) = last + 1 := by
  have hle : (count + perPage - 1) / perPage < last + 2 := by
    rw [Nat.div_lt_iff_lt_mul hperPage, Nat.succ_mul]
    omega
  rcases hbefore with rfl | hlt
  · omega
  · have hge : last + 1 ≤ (count + perPage - 1) / perPage := by
      rw [Nat.le_div_iff_mul_le hperPage, Nat.succ_mul]
      omega
    omega

/-- Paging to the end is complete. From an empty view, while nothing waits, nothing is held back
and the collection does not fail, a query is begun at its first page and continued for as long as
pages remain. This ends, after as many queries of the collection as the matching artifacts fill
pages, and after one query if there are none. Then the view has the id of each matching artifact
once, in the order of the collection, and each has its metadata loaded. -/
theorem paging_complete (session : Session) (queries : List Query)
    (hids : session.store.grid.ids = []) (hentries : session.store.grid.entries = .empty)
    (htasks : session.tasks = []) (hholding : session.holding = [])
    (hfailing : session.collection.failing = [])
    (hperPage : 0 < session.store.config.resultsPerPage) :
    let refs := session.collection.matching queries
    let perPage := session.store.config.resultsPerPage
    ∃ final, (∀ other, PagesOn 1 (session.step (.start (.openQuery queries 0))).2 other ↔
        other = final) ∧
      final.collection.counts.query =
        session.collection.counts.query + max 1 ((refs.length + perPage - 1) / perPage) ∧
      (∃ active, final.store.grid.active = some active ∧ active.queries = queries ∧
        active.hasMore = false) ∧
      final.tasks = [] ∧ final.collection.rows = session.collection.rows ∧
      final.store.grid.ids = (refs.map Artifact.id).eraseDups ∧
      ∀ id ∈ final.store.grid.ids, ∃ entry record, final.store.grid.find? id = some entry ∧
        entry.ref ∈ refs ∧ entry.ref.id = id ∧ entry.metadata = .loaded record ∧
        session.collection.recordOf? entry.ref = some record := by
  intro refs perPage
  have hfirst := shows_openQuery hids hentries htasks hholding hfailing hperPage queries
  obtain ⟨last, final, hpages, hshows, hends, hbefore⟩ :=
    hfirst.pagesOn hfailing hperPage (Or.inl rfl)
  have hall : refs.length ≤ (last + 1) * perPage := by
    rw [← Nat.not_lt, ← hshows.hasMore_iff, hends]
    exact Bool.false_ne_true
  have hlists := hshows.lists
  rw [List.take_of_length_le hall] at hlists
  refine ⟨final, fun other => ⟨hpages.unique, ?_⟩, ?_, ?_, hshows.tasks, ?_, hlists.ids,
    hlists.described⟩
  · rintro rfl
    exact hpages
  · rw [hshows.asked, pages_eq hperPage hall hbefore]
  · rw [hasMore, hshows.active, Option.any_some] at hends
    exact ⟨_, hshows.active, rfl, hends⟩
  · rw [hshows.collection]

/-- Of four rows three meet the query, two of them of one artifact, and a page holds two: two pages
are asked for, and two artifacts are in view. -/
theorem paging_complete_repeated :
    let dock : Artifact := ⟨"shots", "a.jpg", .image⟩
    let pier : Artifact := ⟨"shots", "b.jpg", .image⟩
    let field : Artifact := ⟨"shots", "c.jpg", .image⟩
    let session : Session :=
      { store := .fresh { Config.standard with resultsPerPage := 2 } .supply
        collection := .ofRows [(dock, { Metadata.empty with name := some "The dock" }),
          (field, .empty), (pier, { Metadata.empty with name := some "Docks" }),
          (dock, { Metadata.empty with name := some "dock again" })]
        channel := .create 256
        delivered := 0, tasks := [], nextTask := 0, nextCall := 0, nextTurn := 0, holding := []
        gate := none, log := [], view := none }
    let queries : List Query := [{ Query.all with name := some "dock" }]
    ∃ final, PagesOn 1 (session.step (.start (.openQuery queries 0))).2 final ∧
      final.collection.counts.query = 2 ∧ final.store.grid.ids = [dock.id, pier.id] ∧
      ∃ entry, final.store.grid.find? dock.id = some entry ∧ entry.ref = dock ∧
        entry.metadata = .loaded { Metadata.empty with name := some "The dock" } := by
  intro dock pier field session queries
  obtain ⟨final, hpages, hcount, -, -, -, hids, hdescribed⟩ :=
    paging_complete session queries rfl rfl rfl rfl rfl (by decide)
  have hmatching : session.collection.matching queries = [dock, pier, dock] := by decide +kernel
  rw [hmatching] at hcount hids hdescribed
  have htwo : (([dock, pier, dock].map Artifact.id).eraseDups) = [dock.id, pier.id] := by
    decide +kernel
  rw [htwo] at hids
  have hshown : dock.id ∈ final.store.grid.ids := by
    rw [hids]
    exact List.mem_cons_self
  obtain ⟨entry, record, hentry, hm, hid, hloaded, hrecord⟩ := hdescribed dock.id hshown
  have href : entry.ref = dock := by
    have hne : pier.id ≠ dock.id := by decide +kernel
    rw [List.mem_cons, List.mem_cons, List.mem_singleton] at hm
    rcases hm with h | h | h
    · exact h
    · exact absurd (h ▸ hid) hne
    · exact h
  have hfirst : session.collection.recordOf? dock =
      some { Metadata.empty with name := some "The dock" } := by decide +kernel
  rw [href, hfirst, Option.some.injEq] at hrecord
  have hasked : final.collection.counts.query = 2 := hcount.trans (by decide)
  exact ⟨final, (hpages final).mpr rfl, hasked, hids, entry, hentry, href, hrecord ▸ hloaded⟩

end Session

end MediaGrid
