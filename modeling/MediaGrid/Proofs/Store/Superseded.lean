import MediaGrid.Proofs.Store.Requests
import MediaGrid.Proofs.Store.Waiting

/-!
# Page runs that were superseded

A page run is superseded once the view was cleared or a query begun after its page was asked
for. As long as it waits for the page it is silent from then on: whether the page comes or
fails, the state of the query request stays as it is. A run that waits for the metadata of what
its page added is not: it ends the query request whatever became of its epoch. So an idle
query stays idle until a page is asked for, provided no such metadata was waited for when the
view was cleared. The states of the other requests are covered as far as they are left alone.
-/

namespace MediaGrid

namespace Store

variable (store : Store)

/-! ## The state of the query -/

/-- The state of the query request. -/
def query (store : Store) : RequestStatus := store.grid.requests.get .query

theorem query_of_requests {before after : Store} (h : after.grid.requests = before.grid.requests) :
    after.query = before.query := by
  rw [query, query, h]

/-- Moving another request leaves the query alone. -/
theorem query_moveRequest {kind : Request} (hkind : kind ≠ .query) (state : RequestStatus) :
    (store.moveRequest kind state).query = store.query := by
  rw [query, requests_moveRequest, Requests.get_set, if_neg hkind.symm, query]

theorem query_moveQuery (state : RequestStatus) :
    (store.moveRequest .query state).query = state := by
  rw [query, requests_moveRequest, Requests.get_set, if_pos rfl]

/-- What comes after a page leaves the query alone. -/
theorem query_afterPage (run : PageRun) (result : Except Failure (List ItemId)) :
    (store.afterPage run result).1.query = store.query := by
  unfold afterPage
  split
  · rfl
  · exact (query_moveRequest _ (by decide) _).trans (query_of_requests (store.requests_amend _ _))

/-- Clearing the view leaves an idle query idle. -/
theorem query_clear (h : store.query = .idle) (keepQuery : Bool) :
    (store.clear keepQuery).query = .idle := by
  rw [query, requests_clear, if_neg]
  · exact h
  · rw [← query, h]
    decide

/-- Clearing the view puts a query that runs back to idle. -/
theorem query_clear_of_loading (h : store.query = .loading) (keepQuery : Bool) :
    (store.clear keepQuery).query = .idle := by
  rw [query, requests_clear, if_pos]
  · rw [Requests.get_set, if_pos rfl]
  · exact h

/-- A page of an epoch that is over leaves the query alone, whether it came or failed. -/
theorem query_stale {run : PageRun} (h : run.epoch ≠ store.grid.epoch) {reply : Reply}
    {result : Store × Progress} (hresume : store.resume (.page run) reply = some result) :
    result.1.query = store.query ∧ result.2.pendings = [] := by
  cases resumes_of_eq_some hresume with
  | page run page =>
    simp only [mergePage, Grid.mergePage, if_pos h]
    exact ⟨store.query_afterPage run _, pendings_afterPage _ _⟩
  | pageLost run failure =>
    simp only [losePage, Grid.withdrawPage?, if_pos h]
    exact ⟨store.query_afterPage run _, pendings_afterPage _ _⟩

/-! ## A query that is idle -/

/-- A command leaves an idle query idle. -/
theorem idle_obey (h : store.query = .idle) (command : Command) :
    (store.obey command).query = .idle := by
  cases command with
  | clear keepQuery => exact store.query_clear h keepQuery
  | add refs => exact (query_of_requests (store.requests_addAll refs)).trans h
  | unload facet ids => exact (query_of_requests (store.requests_unload facet ids)).trans h
  | mark ids value => exact (query_of_requests (store.requests_mark ids value)).trans h
  | dialog isOpen => exact (query_of_requests (store.requests_setDialog isOpen)).trans h
  | showVideo urlsOf id => exact (query_of_requests (store.requests_showVideo urlsOf id)).trans h
  | hideVideo id => exact (query_of_requests (store.requests_setVideo id none)).trans h
  | typeSearch search => exact (query_of_requests (store.requests_typeSearch search)).trans h
  | pick completion => exact (query_of_requests (store.requests_typeSearch _)).trans h

/-- An operation that starts and asks for no page leaves an idle query idle. -/
theorem idle_begin {operation : Operation} {result : Store × Progress}
    (hbegins : store.Begins operation result) (h : store.query = .idle)
    (hnone : ∀ run, .page run ∉ result.2.pendings) : result.1.query = .idle := by
  have hmoved : ∀ {kind}, kind ≠ .query → (store.moveRequest kind .loading).query = .idle :=
    fun hkind => (store.query_moveRequest hkind .loading).trans h
  cases hbegins with
  | declined operation outcome hdeclines => exact h
  | openQuery | furtherPage | refill | submit =>
    exact absurd (List.mem_singleton_self _) (hnone _)
  | describe ids hsome =>
    exact (query_of_requests (store.grid.sameUpTo_claimRecords ids).requests_eq).trans h
  | thumbnails ids chunk => exact (query_of_requests (store.requests_load _ ids chunk)).trans h
  | image id hin => exact (query_of_requests (store.requests_load .full [id] 1)).trans h
  | followScroll entered exited =>
    have hunloaded := (query_of_requests (store.requests_unload .thumbnail exited)).trans h
    exact (query_of_requests (requests_load _ .thumbnail entered _)).trans hunloaded
  | archive targets hbegin =>
    exact (query_of_requests (requests_mark _ _ false)).trans (hmoved (by decide))
  | delete targets hbegin => exact hmoved (by decide)
  | edit update targets hbegin => exact hmoved (by decide)
  | suggestCached texts hcached =>
    exact (query_of_requests (store.requests_offerCompletions _ texts)).trans h
  | suggestNone hcached hnone =>
    exact (query_of_requests (store.requests_offerCompletions _ [])).trans h
  | suggestPage hcached hwords hlimit => exact h

/-- After an edit the view is filled again by a query, unless there is none. -/
theorem idle_rebuild (ids : List ItemId) (update : Metadata) (h : store.query = .idle)
    (hnone : ∀ run, .page run ∉ (store.rebuild ids update).2.pendings) :
    (store.rebuild ids update).1.query = .idle := by
  have hdialog : (store.setDialog false).2.forget.query = .idle :=
    (query_of_requests (store.requests_setDialog false)).trans h
  unfold rebuild at hnone ⊢
  dsimp only at hnone ⊢
  generalize (store.setDialog false).2.forget = closed at hdialog hnone ⊢
  have hthumbnails := (query_of_requests (closed.requests_unload .thumbnail closed.grid.ids)).trans
    hdialog
  have himages := (query_of_requests (requests_unload _ .full closed.grid.ids)).trans hthumbnails
  have hcleared := query_clear _ himages true
  split at hnone
  · have hamended := (query_of_requests (requests_amend _ ids update)).trans hcleared
    exact (query_moveRequest _ (by decide) _).trans hamended
  · exact absurd (List.mem_singleton_self _) (hnone _)

variable {store} in
/-- An operation that goes on and asks for no page leaves an idle query idle, if it is not a page
run or waited for a page that is out of date. -/
theorem idle_resume {pending : Pending} {reply : Reply} {result : Store × Progress}
    (h : store.query = .idle) (hresume : store.resume pending reply = some result)
    (hstale : ∀ run, pending.run? = some run →
      pending = .page run ∧ run.epoch ≠ store.grid.epoch)
    (hnone : ∀ run, .page run ∉ result.2.pendings) : result.1.query = .idle := by
  have hmoved : ∀ {middle : Store} {kind : Request} {state : RequestStatus},
      middle.query = .idle → kind ≠ .query → (middle.moveRequest kind state).query = .idle :=
    fun hmiddle hkind => (query_moveRequest _ hkind _).trans hmiddle
  cases hrun : pending.run? with
  | some run =>
    obtain ⟨rfl, hepoch⟩ := hstale run hrun
    exact (store.query_stale hepoch hresume).1.trans h
  | none =>
    cases resumes_of_eq_some hresume with
    | page run page => cases hrun
    | pageLost run failure => cases hrun
    | pageRecords run added claimed records => cases hrun
    | pageRecordsLost run added claimed failure => cases hrun
    | records claimed records => exact (query_of_requests (store.requests_storeRecords _ _)).trans h
    | recordsLost claimed failure =>
      exact (query_of_requests (store.requests_giveUpRecords _)).trans h
    | contents load outcomes hlength =>
      have hsettled := requests_settleClaims load.facet (store, load.summary)
        (load.chunk.zip outcomes)
      rw [settleChunk, (nextChunk_eq _ _).1]
      exact (query_of_requests hsettled).trans h
    | archive items => exact hmoved h (by decide)
    | archiveLost items failure => exact hmoved h (by decide)
    | delete targets =>
      have hdiscarded := (query_of_requests
        (store.forget.requests_discard (targets.map (·.1)))).trans h
      exact hmoved hdiscarded (by decide)
    | deleteLost targets failure => exact hmoved h (by decide)
    | edit targets update => exact store.idle_rebuild _ update h hnone
    | editLost targets update failure => exact hmoved h (by decide)
    | suggestNone search request fragments page hempty =>
      exact (query_of_requests (requests_offerCompletions _ _ _)).trans h
    | suggestPage search request fragments page hsome => exact h
    | suggestPageLost search request fragments failure => exact h
    | suggestRecords search refs fragments records =>
      exact (query_of_requests (requests_offerCompletions _ _ _)).trans h
    | suggestRecordsLost search refs fragments failure => exact h

end Store

namespace Service

/-- Whether a turn asks for a page: it starts a query or a continuation of one. -/
def AsksPage (service : Service) (turn : Turn) : Prop :=
  ∃ run, .page run ∈ service.newcomers turn

/-- No turn of a run asks for a page. -/
def AsksNone (service : Service) : List Turn → Prop
  | [] => True
  | turn :: rest => ¬service.AsksPage turn ∧ (service.turn turn).AsksNone rest

/-- The query is idle, and every page run that waits was superseded while it waited for its
page. -/
structure Quiescent (service : Service) : Prop where
  /-- The query is idle. -/
  query : service.store.query = .idle
  /-- The page runs that wait are superseded and wait for their pages. -/
  runs : ∀ pending ∈ service.waiting, ∀ run, pending.run? = some run →
    pending = .page run ∧ run.epoch < service.store.grid.epoch

/-- Where the query stays idle, no page run starts to wait and the epoch does not go back, the page
runs that go on waiting stay superseded. -/
theorem Quiescent.of_idle {service : Service} (h : service.Quiescent) {store : Store}
    {newcomers others : List Pending} (hidle : store.query = .idle)
    (hruns : ∀ pending ∈ newcomers, pending.run? = none)
    (hepoch : service.store.grid.epoch ≤ store.grid.epoch)
    (hsub : ∀ pending ∈ others, pending ∈ service.waiting) :
    Quiescent ⟨store, newcomers ++ others⟩ := by
  refine ⟨hidle, fun pending hm run he => ?_⟩
  rcases List.mem_append.mp hm with hm | hm
  · rw [hruns pending hm] at he
    cases he
  · obtain ⟨hpage, hlt⟩ := h.runs pending (hsub pending hm) run he
    exact ⟨hpage, Nat.lt_of_lt_of_le hlt hepoch⟩

/-- A turn that asks for no page leaves an idle query idle. -/
theorem Quiescent.turn {service : Service} (h : service.Quiescent) {turn : Turn}
    (hasks : ¬service.AsksPage turn) : (service.turn turn).Quiescent := by
  cases turn with
  | command command =>
    have hruns : ∀ pending ∈ ([] : List Pending), pending.run? = none := fun _ hm => by cases hm
    exact h.of_idle (service.store.idle_obey h.query command) hruns
      (service.store.keeps_obey command).epoch fun _ hm => hm
  | start operation =>
    have hnone : ∀ run, .page run ∉ (service.store.begin operation).2.pendings :=
      fun run hm => hasks ⟨run, hm⟩
    have hbegins := service.store.begins operation
    refine h.of_idle (Store.idle_begin _ hbegins h.query hnone) (fun pending hm => ?_)
      (Store.begin_answers hbegins).epoch fun _ hm => hm
    rcases Store.waits_begin hbegins hm with ⟨run, rfl⟩ | ⟨ids, rfl⟩ | ⟨hrun, -⟩
    · exact absurd hm (hnone run)
    · rfl
    · exact hrun
  | answer position reply =>
    cases hresumed : service.resumed? position reply with
    | none =>
      rw [turn_of_not_resumed hresumed]
      exact h
    | some result =>
      obtain ⟨pending, hpending, hresume⟩ := Option.bind_eq_some_iff.mp hresumed
      have hnone : ∀ run, .page run ∉ result.2.pendings := by
        intro run hm
        refine hasks ⟨run, ?_⟩
        simp only [newcomers, hresumed]
        exact hm
      have hstale : ∀ run, pending.run? = some run →
          pending = .page run ∧ run.epoch ≠ service.store.grid.epoch := fun run he =>
        (h.runs pending (List.mem_of_getElem? hpending) run he).imp_right Nat.ne_of_lt
      have hanswers := Store.resume_answers hresume fun run he hepoch =>
        absurd hepoch (hstale run he).2
      rw [turn_of_resumed hresumed]
      refine h.of_idle (Store.idle_resume h.query hresume hstale hnone) (fun next hm => ?_)
        hanswers.epoch fun _ hm => List.mem_of_mem_eraseIdx hm
      rcases Store.waits_resume hresume hm with
        ⟨run, rfl⟩ | ⟨run, page, added, rfl, rfl⟩ | ⟨hrun, -⟩
      · exact absurd hm (hnone run)
      · -- A page that is out of date is not merged, so that nothing waits after it.
        rw [(Store.query_stale _ (hstale run rfl).2 hresume).2] at hm
        cases hm
      · exact hrun

theorem Quiescent.run {service : Service} (h : service.Quiescent) {turns : List Turn}
    (hasks : service.AsksNone turns) : (service.run turns).Quiescent := by
  induction turns generalizing service with
  | nil => exact h
  | cons turn rest ih => exact ih (h.turn hasks.1) hasks.2

/-- Clearing the view while no metadata of a page is waited for supersedes all page runs while
they wait for their pages. -/
theorem quiescent_clear {service : Service} (h : service.Covered) (keepQuery : Bool)
    (hloading : service.store.query = .loading)
    (hnone : ∀ run added claimed, .pageRecords run added claimed ∉ service.waiting) :
    (service.turn (.command (.clear keepQuery))).Quiescent := by
  have hepoch : (service.store.clear keepQuery).grid.epoch = service.store.grid.epoch + 1 := by
    unfold Store.clear
    dsimp only
    split <;> rfl
  refine ⟨service.store.query_clear_of_loading hloading keepQuery, fun pending hm run he => ?_⟩
  have hle := (h.runs pending hm run he).1
  refine ⟨?_, Nat.lt_of_le_of_lt hle (hepoch ▸ Nat.lt_succ_self _)⟩
  cases pending with
  | page other =>
    cases he
    rfl
  | pageRecords other added claimed => exact absurd hm (hnone other added claimed)
  | _ => cases he

/-- The metadata of a page ends the query request, whatever became of the epoch of the page. -/
theorem query_pageRecords {service : Service} {position : Nat} {run : PageRun}
    {added : List ItemId} {claimed : List (ItemId × Artifact)}
    (h : service.waiting[position]? = some (.pageRecords run added claimed)) :
    (∀ records, (service.turn (.answer position (.records (.ok records)))).store.query =
      .succeeded) ∧
    ∀ failure, (service.turn (.answer position (.records (.error failure)))).store.query =
      .failed failure.message := by
  refine ⟨fun records => ?_, fun failure => ?_⟩
  · simp only [Service.turn, h, Store.resume]
    exact (Store.query_afterPage _ run _).trans (Store.query_moveQuery _ _)
  · simp only [Service.turn, h, Store.resume]
    exact (Store.query_afterPage _ run _).trans (Store.query_moveQuery _ _)

/-- A page run that was superseded is silent while it waits for its page: whether the page comes
or fails, the state of the query stays as it is. Once it waits for the metadata of what the page
added it is not silent: the query succeeds or fails with that metadata. So a query that went back
to idle when the view was cleared stays idle until a page is asked for, if no run waited for
metadata by then. -/
theorem superseded_page_silent (config : Config) (draw : Nat → Uuid) (early late : List Turn) :
    let service := (fresh config draw).run early
    let later := service.run late
    (∀ pending ∈ service.waiting, ∀ run, pending.run? = some run →
      service.store.grid.epoch < later.store.grid.epoch → ∀ position,
        (later.waiting[position]? = some (.page run) → ∀ reply,
          (later.turn (.answer position reply)).store.query = later.store.query) ∧
        ∀ added claimed, later.waiting[position]? = some (.pageRecords run added claimed) →
          (∀ records, (later.turn (.answer position (.records (.ok records)))).store.query =
            .succeeded) ∧
          ∀ failure, (later.turn (.answer position (.records (.error failure)))).store.query =
            .failed failure.message) ∧
    ((∀ run added claimed, .pageRecords run added claimed ∉ service.waiting) →
      service.store.query = .loading → ∀ keepQuery,
        let cleared := service.turn (.command (.clear keepQuery))
        cleared.AsksNone late → (cleared.run late).store.query = .idle) := by
  intro service later
  have hcovered : service.Covered := covered_run config draw early
  refine ⟨fun pending hm run he hepoch position => ⟨fun hpage reply => ?_, fun added claimed hr =>
    query_pageRecords hr⟩, ?_⟩
  · have hover : run.epoch ≠ later.store.grid.epoch := by
      have hle := (hcovered.runs pending hm run he).1
      omega
    simp only [Service.turn, hpage]
    split
    · rfl
    · rename_i hresume
      exact (Store.query_stale _ hover hresume).1
  · intro hnone hloading keepQuery cleared hasks
    exact ((quiescent_clear hcovered keepQuery hloading hnone).run hasks).query

/-- The view was cleared while a page was on the way. The page leaves the query idle when it comes,
and so it does when it fails. -/
theorem superseded_page_silent_cleared :
    let cleared := (fresh .standard .supply).run
      [.start (.openQuery [] 0), .command (.clear false)]
    (cleared.turn (.answer 0 (.page (.ok ⟨[], 0, true⟩)))).store.query = cleared.store.query ∧
      (cleared.run [.answer 0 (.page (.error (.backend "gone")))]).store.query = .idle := by
  let run : PageRun :=
    ⟨⟨[], Config.standard.orderings, Config.standard.resultsPerPage, 0⟩, 1, .report⟩
  have hwaiting : ((fresh .standard .supply).run [.start (.openQuery [] 0)]).waiting =
      [.page run] := by decide +kernel
  have hnone : ∀ other added claimed, .pageRecords other added claimed ∉
      ((fresh .standard .supply).run [.start (.openQuery [] 0)]).waiting := by
    intro other added claimed hm
    rw [hwaiting] at hm
    cases List.mem_singleton.mp hm
  have hcome := (superseded_page_silent .standard .supply [.start (.openQuery [] 0)]
    [.command (.clear false)]).1 (.page run) (hwaiting ▸ List.mem_singleton_self _) run rfl
    (by decide +kernel) 0
  have hfail := (superseded_page_silent .standard .supply [.start (.openQuery [] 0)]
    [.answer 0 (.page (.error (.backend "gone")))]).2 hnone (by decide +kernel) false
    ⟨fun ⟨_, hm⟩ => absurd (List.length_pos_of_mem hm) (by decide +kernel), trivial⟩
  exact ⟨hcome.1 (by decide +kernel) _, hfail⟩

/-- The view was cleared while the metadata of a page was on the way. The query goes back to idle,
and when the metadata comes it succeeds, though nobody asked for a page in between. -/
theorem superseded_records_speak :
    let page : Page := ⟨[⟨"shots", "a.jpg", .image⟩], 0, true⟩
    let cleared := (fresh .standard .supply).run
      [.start (.openQuery [] 0), .answer 0 (.page (.ok page)), .command (.clear false)]
    let answer : Turn := .answer 0 (.records (.ok []))
    cleared.store.query = .idle ∧ cleared.AsksNone [answer] ∧
      (cleared.turn answer).store.query = .succeeded := by
  refine ⟨by decide +kernel, ⟨?_, trivial⟩, by decide +kernel⟩
  rintro ⟨run, hm⟩
  exact absurd (List.length_pos_of_mem hm) (by decide +kernel)

end Service

end MediaGrid
