import MediaGrid.Store.Operation

/-!
# Runs of the store

A service is a store with the operations that wait for the backend. It moves in turns: a
command that needs no answer, the start of an operation, or an answer to one that waits. The
turns come in any order, so any number of operations overlap, and the answers are arbitrary
as long as they fit the calls. No operation is given up. What the backend would really answer
and when it does so are no part of it; between two turns every operation is suspended.
-/

namespace MediaGrid

/-- A call of the store that needs no answer from the backend. -/
inductive Command where
  /-- Adds entries for artifacts. -/
  | add (refs : List Artifact)
  /-- Drops every entry. -/
  | clear (keepQuery : Bool)
  /-- Drops the loaded contents of a facet. -/
  | unload (facet : ByteFacet) (ids : List ItemId)
  /-- Selects or deselects entries, or all. -/
  | mark (ids : Option (List ItemId)) (value : Bool)
  /-- Opens or closes the edit dialog. -/
  | dialog (isOpen : Bool)
  /-- Shows a video at the addresses that the backend gives for it. -/
  | showVideo (urlsOf : Artifact → Option VideoLinks) (id : ItemId)
  /-- Hides a video. -/
  | hideVideo (id : ItemId)
  /-- Sets the search text. -/
  | typeSearch (search : String)
  /-- Puts a completion into the search text. -/
  | pick (completion : String)

/-- The store after a command. -/
def Store.obey (store : Store) : Command → Store
  | .add refs => (store.addAll refs).2
  | .clear keepQuery => store.clear keepQuery
  | .unload facet ids => (store.unload facet ids).2
  | .mark ids value => (store.mark ids value).2
  | .dialog isOpen => (store.setDialog isOpen).2
  | .showVideo urlsOf id => (store.showVideo urlsOf id).2
  | .hideVideo id => (store.setVideo id none).2
  | .typeSearch search => (store.typeSearch search).2
  | .pick completion => (store.pick completion).2

/-- Showing a video does nothing where there is no video of the id, or the backend gives no
addresses for it; else the addresses are set. -/
theorem Store.showVideo_cases (store : Store) (urlsOf : Artifact → Option VideoLinks)
    (id : ItemId) :
    (store.showVideo urlsOf id = (false, store) ∧ ∀ entry, store.grid.find? id = some entry →
      entry.ref.kind = .video → urlsOf entry.ref = none) ∨
    ∃ entry urls, store.grid.find? id = some entry ∧ urlsOf entry.ref = some urls ∧
      store.showVideo urlsOf id = store.setVideo id (some urls) := by
  unfold showVideo
  cases hentry : store.grid.find? id with
  | none => exact Or.inl ⟨rfl, fun _ hfound => by cases hfound⟩
  | some entry =>
    by_cases hkind : entry.ref.kind = .video
    · cases hurls : urlsOf entry.ref with
      | none =>
        refine Or.inl ⟨by simp [hkind, hurls], fun other hfound _ => ?_⟩
        cases hfound
        exact hurls
      | some urls => exact Or.inr ⟨entry, urls, rfl, hurls, by simp [hkind, hurls]⟩
    · refine Or.inl ⟨by simp [hkind], fun other hfound hvideo => ?_⟩
      cases hfound
      exact absurd hvideo hkind

/-- A request on the selection starts if it does not run and something is selected. It takes the
selected artifacts and moves to running. -/
theorem Store.beginOnSelection_eq_some {store begun : Store} {kind : Request}
    {targets : List (ItemId × Artifact)}
    (h : store.beginOnSelection kind = some (targets, begun)) :
    store.grid.requests.get kind ≠ .loading ∧
      (targets = store.grid.selected.map fun row => (row.1, row.2.ref)) ∧ targets ≠ [] ∧
      begun = store.moveRequest kind .loading := by
  simp only [beginOnSelection, Grid.beginOnSelection?] at h
  split at h
  · cases h
  · rename_i hidle
    split at h
    · cases h
    · rename_i hsome
      cases h
      refine ⟨hidle, rfl, fun hnone => hsome (List.isEmpty_iff.mpr hnone), ?_⟩
      rw [moveRequest, Grid.moveRequest?, if_neg hidle]
      rfl

/-- Whether the store turns an operation away before anything is claimed or asked for. A load of
contents is never turned away, though it may find nothing to claim. -/
def Store.Declines (store : Store) : Operation → Prop
  | .furtherPage page => store.grid.askFurther? page = none
  | .refill => store.grid.active = none
  | .describe ids => (store.grid.claimRecords ids).1.isEmpty
  | .image id => ¬store.grid.contains id
  | .archive => store.beginOnSelection .download = none
  | .delete => store.beginOnSelection .delete = none
  | .edit _ => store.beginOnSelection .metadataEdit = none
  | _ => False

/-- What an operation does until it ends or waits for its first answer. -/
inductive Store.Begins (store : Store) : Operation → Store × Progress → Prop where
  /-- It is turned away, and nothing was done. -/
  | declined (operation : Operation) (result : Except Failure Outcome)
      (hdeclines : store.Declines operation) :
    Begins store operation (store, .done result)
  /-- A query begins. -/
  | openQuery (queries : List Query) (page : Nat) :
    Begins store (.openQuery queries page) (store.openQuery queries page .report)
  /-- A further page is asked for. -/
  | furtherPage (page : Nat) (queries : List Query) (epoch : Nat) (asked : Grid)
      (hask : store.grid.askFurther? page = some ((queries, epoch), asked)) :
    Begins store (.furtherPage page)
      ({ store with grid := asked }.askPage queries page epoch .report)
  /-- The query begins again, with the view cleared. -/
  | refill (active : PagedQuery) (hactive : store.grid.active = some active) :
    Begins store .refill ((store.clear true).openQuery active.queries 0 .report)
  /-- The query of the search text begins, with the view cleared. -/
  | submit :
    Begins store .submit
      ((store.clear false).openQuery (SearchPlan.ofText store.grid.search).queries 0 .report)
  /-- Metadata is asked for. -/
  | describe (ids : List ItemId) (hsome : ¬(store.grid.claimRecords ids).1.isEmpty) :
    Begins store (.describe ids)
      ({ store with grid := (store.grid.claimRecords ids).2 },
        .waiting (.records (store.grid.claimRecords ids).1))
  /-- Small images are loaded. -/
  | thumbnails (ids : List ItemId) (chunk : Nat) :
    Begins store (.thumbnails ids chunk) (store.load .thumbnail ids chunk)
  /-- The image of an entry is loaded. -/
  | image (id : ItemId) (hin : store.grid.contains id) :
    Begins store (.image id) (store.load .full [id] 1)
  /-- What went out of view is dropped and what came into view is loaded. -/
  | followScroll (entered exited : List ItemId) :
    Begins store (.followScroll entered exited)
      ((store.unload .thumbnail exited).2.load .thumbnail entered store.config.thumbnailChunk)
  /-- An archive of the selection is asked for. -/
  | archive (targets : List (ItemId × Artifact))
      (hbegin : store.beginOnSelection .download =
        some (targets, store.moveRequest .download .loading)) :
    Begins store .archive
      (((store.moveRequest .download .loading).mark (some (targets.map (·.1))) false).2,
        .waiting (.archive (targets.map fun (id, ref) =>
          ⟨ref, ((store.moveRequest .download .loading).grid.find? id).bind
            fun entry => entry.metadata.record?⟩)))
  /-- The selection is to be deleted. -/
  | delete (targets : List (ItemId × Artifact))
      (hbegin : store.beginOnSelection .delete =
        some (targets, store.moveRequest .delete .loading)) :
    Begins store .delete (store.moveRequest .delete .loading, .waiting (.delete targets))
  /-- The metadata of the selection is to be changed. -/
  | edit (update : Metadata) (targets : List (ItemId × Artifact))
      (hbegin : store.beginOnSelection .metadataEdit =
        some (targets, store.moveRequest .metadataEdit .loading)) :
    Begins store (.edit update)
      (store.moveRequest .metadataEdit .loading, .waiting (.edit targets update))
  /-- There are completions in the cache. -/
  | suggestCached (texts : List String)
      (hcached : store.cached? store.grid.search = some texts) :
    Begins store .suggest (store.finishSuggestions store.grid.search texts)
  /-- Completions cannot be mined: there is no word or no result to do so from. -/
  | suggestNone (hcached : store.cached? store.grid.search = none)
      (hnone : (SearchPlan.ofText store.grid.search).fragments.isEmpty ∨
        store.config.suggestionLimit = 0) :
    Begins store .suggest (store.finishSuggestions store.grid.search [])
  /-- The results to mine completions from are asked for. -/
  | suggestPage (hcached : store.cached? store.grid.search = none)
      (hwords : ¬(SearchPlan.ofText store.grid.search).fragments.isEmpty)
      (hlimit : store.config.suggestionLimit ≠ 0) :
    Begins store .suggest (store, .waiting (.suggestPage store.grid.search
      ⟨(SearchPlan.ofText store.grid.search).queries, store.config.orderings,
        store.config.suggestionLimit, 0⟩
      (SearchPlan.ofText store.grid.search).fragments))

/-- An operation starts in one of these ways. -/
theorem Store.begins (store : Store) (operation : Operation) :
    store.Begins operation (store.begin operation) := by
  cases operation with
  | openQuery queries page => exact .openQuery queries page
  | furtherPage page =>
    simp only [begin, askFurther]
    split
    · exact .declined _ _ ‹_›
    · exact .furtherPage page _ _ _ ‹_›
  | refill =>
    simp only [begin]
    split
    · exact .declined _ _ ‹_›
    · exact .refill _ ‹_›
  | submit => exact .submit
  | describe ids =>
    simp only [begin, askRecords]
    split
    · exact .declined _ _ ‹_›
    · exact .describe ids ‹_›
  | thumbnails ids chunk => exact .thumbnails ids chunk
  | image id =>
    simp only [begin]
    split
    · exact .image id ‹_›
    · exact .declined _ _ ‹_›
  | followScroll entered exited => exact .followScroll entered exited
  | archive =>
    simp only [begin, Store.archive]
    split
    · exact .declined _ _ ‹_›
    · rename_i hbegin
      obtain ⟨-, -, -, rfl⟩ := beginOnSelection_eq_some hbegin
      exact .archive _ hbegin
  | delete =>
    simp only [begin, Store.delete]
    split
    · exact .declined _ _ ‹_›
    · rename_i hbegin
      obtain ⟨-, -, -, rfl⟩ := beginOnSelection_eq_some hbegin
      exact .delete _ hbegin
  | edit update =>
    simp only [begin, Store.edit]
    split
    · exact .declined _ _ ‹_›
    · rename_i hbegin
      obtain ⟨-, -, -, rfl⟩ := beginOnSelection_eq_some hbegin
      exact .edit update _ hbegin
  | suggest =>
    simp only [begin, suggest]
    split
    · exact .suggestCached _ ‹_›
    · rename_i hcached
      split
      · rename_i hnone
        exact .suggestNone hcached (by simpa only [Bool.or_eq_true, decide_eq_true_eq] using hnone)
      · rename_i hsome
        rw [Bool.or_eq_true, decide_eq_true_eq, not_or] at hsome
        exact .suggestPage hcached hsome.1 hsome.2

/-- What a waiting operation does with an answer that fits its calls. -/
inductive Store.Resumes (store : Store) : Pending → Reply → Store × Progress → Prop where
  /-- A page came. -/
  | page (run : PageRun) (page : Page) :
    Resumes store (.page run) (.page (.ok page)) (store.mergePage run page)
  /-- A page failed. -/
  | pageLost (run : PageRun) (failure : Failure) :
    Resumes store (.page run) (.page (.error failure)) (store.losePage run failure)
  /-- The metadata of what a page added came. -/
  | pageRecords (run : PageRun) (added : List ItemId) (claimed : List (ItemId × Artifact))
      (records : List (Artifact × Metadata)) :
    Resumes store (.pageRecords run added claimed) (.records (.ok records))
      ((store.storeRecords claimed records).2.settlePage run added)
  /-- The metadata of what a page added failed. -/
  | pageRecordsLost (run : PageRun) (added : List ItemId) (claimed : List (ItemId × Artifact))
      (failure : Failure) :
    Resumes store (.pageRecords run added claimed) (.records (.error failure))
      (((store.giveUpRecords claimed).requestFailed .query failure).afterPage run (.error failure))
  /-- Metadata came. -/
  | records (claimed : List (ItemId × Artifact)) (records : List (Artifact × Metadata)) :
    Resumes store (.records claimed) (.records (.ok records))
      ((store.storeRecords claimed records).2,
        .done (.ok (.ids (store.storeRecords claimed records).1)))
  /-- Metadata failed. -/
  | recordsLost (claimed : List (ItemId × Artifact)) (failure : Failure) :
    Resumes store (.records claimed) (.records (.error failure))
      (store.giveUpRecords claimed, .done (.error failure))
  /-- The contents of a chunk came or failed, one by one. -/
  | contents (load : ByteLoad) (outcomes : List (Except Failure String))
      (hlength : outcomes.length = load.chunk.length) :
    Resumes store (.contents load) (.fetched outcomes) (store.settleChunk load outcomes)
  /-- The archive was written. -/
  | archive (items : List ArchiveEntry) :
    Resumes store (.archive items) (.settled (.ok ()))
      (store.moveRequest .download .succeeded, .done (.ok (.done true)))
  /-- The archive failed. -/
  | archiveLost (items : List ArchiveEntry) (failure : Failure) :
    Resumes store (.archive items) (.settled (.error failure))
      (store.requestFailed .download failure, .done (.error failure))
  /-- The selection was deleted. -/
  | delete (targets : List (ItemId × Artifact)) :
    Resumes store (.delete targets) (.settled (.ok ()))
      ((store.forget.discard (targets.map (·.1))).2.moveRequest .delete .succeeded,
        .done (.ok (.ids (store.forget.discard (targets.map (·.1))).1)))
  /-- The deletion failed. -/
  | deleteLost (targets : List (ItemId × Artifact)) (failure : Failure) :
    Resumes store (.delete targets) (.settled (.error failure))
      (store.requestFailed .delete failure, .done (.error failure))
  /-- The metadata of the selection was changed. -/
  | edit (targets : List (ItemId × Artifact)) (update : Metadata) :
    Resumes store (.edit targets update) (.settled (.ok ()))
      (store.rebuild (targets.map (·.1)) update)
  /-- The change failed. -/
  | editLost (targets : List (ItemId × Artifact)) (update : Metadata) (failure : Failure) :
    Resumes store (.edit targets update) (.settled (.error failure))
      (store.requestFailed .metadataEdit failure, .done (.error failure))
  /-- There are no results to mine completions from. -/
  | suggestNone (search : String) (request : PageRequest) (fragments : List String) (page : Page)
      (hempty : page.refs.isEmpty) :
    Resumes store (.suggestPage search request fragments) (.page (.ok page))
      (store.rememberSuggestions search [])
  /-- The results to mine completions from came. -/
  | suggestPage (search : String) (request : PageRequest) (fragments : List String) (page : Page)
      (hsome : ¬page.refs.isEmpty) :
    Resumes store (.suggestPage search request fragments) (.page (.ok page))
      (store, .waiting (.suggestRecords search page.refs fragments))
  /-- The results failed. -/
  | suggestPageLost (search : String) (request : PageRequest) (fragments : List String)
      (failure : Failure) :
    Resumes store (.suggestPage search request fragments) (.page (.error failure))
      (store, .done (.error failure))
  /-- The metadata to mine completions from came. -/
  | suggestRecords (search : String) (refs : List Artifact) (fragments : List String)
      (records : List (Artifact × Metadata)) :
    Resumes store (.suggestRecords search refs fragments) (.records (.ok records))
      (store.rememberSuggestions search
        (mineCompletions fragments (records.map (·.2)) store.config.snippetLength))
  /-- That metadata failed. -/
  | suggestRecordsLost (search : String) (refs : List Artifact) (fragments : List String)
      (failure : Failure) :
    Resumes store (.suggestRecords search refs fragments) (.records (.error failure))
      (store, .done (.error failure))

/-- An operation goes on in one of these ways. -/
theorem Store.resumes_of_eq_some {store : Store} {pending : Pending} {reply : Reply}
    {result : Store × Progress} (h : store.resume pending reply = some result) :
    store.Resumes pending reply result := by
  unfold resume at h
  split at h
  all_goals
    first
    | cases h
      constructor
    | split at h <;> cases h <;> constructor <;> assumption
    | cases h

/-- One turn of a service. -/
inductive Turn where
  /-- Runs a command. -/
  | command (command : Command)
  /-- Starts an operation. -/
  | start (operation : Operation)
  /-- Answers the waiting operation at a position. -/
  | answer (position : Nat) (reply : Reply)

/-- What waits after an operation ran as far as it gets: itself, unless it ended. -/
def Progress.pendings : Progress → List Pending
  | .done _ => []
  | .waiting pending => [pending]

/-- A store with the operations that wait for the backend. -/
structure Service where
  /-- The store. -/
  store : Store
  /-- What is waited for, once for each operation that did not end. -/
  waiting : List Pending

namespace Service

/-- A service whose store is new and has a shelf of its own. -/
def fresh (config : Config) (draw : Nat → Uuid) : Service := ⟨.fresh config draw, []⟩

/-- The service after a turn. Nothing happens where nobody waits, or where the answer does not
fit the calls. -/
def turn (service : Service) : Turn → Service
  | .command command => { service with store := service.store.obey command }
  | .start operation =>
    let (store, progress) := service.store.begin operation
    ⟨store, progress.pendings ++ service.waiting⟩
  | .answer position reply =>
    match service.waiting[position]? with
    | none => service
    | some pending =>
      match service.store.resume pending reply with
      | none => service
      | some (store, progress) =>
        ⟨store, progress.pendings ++ service.waiting.eraseIdx position⟩

/-- The service after turns taken one after the other. -/
def run (service : Service) (turns : List Turn) : Service := turns.foldl turn service

/-- The sum of what is counted at each turn of a run. -/
def total (count : Service → Turn → Nat) (service : Service) : List Turn → Nat
  | [] => 0
  | turn :: rest => count service turn + total count (service.turn turn) rest

/-- The turns of a run can be taken in two parts. -/
theorem run_append (service : Service) (early late : List Turn) :
    service.run (early ++ late) = (service.run early).run late :=
  List.foldl_append

/-- The last turn of a run comes on top. -/
theorem run_concat (service : Service) (turns : List Turn) (turn : Turn) :
    service.run (turns ++ [turn]) = (service.run turns).turn turn :=
  service.run_append turns [turn]

/-- What every turn keeps holds after every run. -/
theorem run_keeps {motive : Service → Prop}
    (hstep : ∀ service turn, motive service → motive (service.turn turn)) {service : Service}
    (h : motive service) (turns : List Turn) : motive (service.run turns) := by
  induction turns generalizing service with
  | nil => exact h
  | cons turn rest ih => exact ih (hstep service turn h)

end Service

/-! ## Claims that are still to be settled -/

/-- The claims of a load that are still to be settled, with their facet. -/
def ByteLoad.targets (load : ByteLoad) : List (ByteFacet × Claim) :=
  (load.chunk ++ load.rest).map fun target => (load.facet, target.1)

/-- The fetches that a load waits for. -/
def ByteLoad.fetches (load : ByteLoad) : List (ByteFacet × Claim) :=
  load.chunk.map fun target => (load.facet, target.1)

/-- The claims that an operation has still to settle. -/
def Pending.targets : Pending → List (ByteFacet × Claim)
  | .contents load => load.targets
  | _ => []

/-- The fetches that an operation waits for. -/
def Pending.fetches : Pending → List (ByteFacet × Claim)
  | .contents load => load.fetches
  | _ => []

/-- Whether an operation waits for a chunk of a load. -/
def Pending.isLoad : Pending → Bool
  | .contents _ => true
  | _ => false

/-- Only loads have claims to settle. -/
theorem Pending.targets_of_not_load {pending : Pending} (h : pending.isLoad = false) :
    pending.targets = [] := by
  cases pending with
  | contents load => cases h
  | _ => rfl

/-- The claims that the operations of a service have still to settle. -/
def Service.targets (service : Service) : List (ByteFacet × Claim) :=
  service.waiting.flatMap Pending.targets

/-- The fetches that the operations of a service wait for. -/
def Service.fetches (service : Service) : List (ByteFacet × Claim) :=
  service.waiting.flatMap Pending.fetches

end MediaGrid
