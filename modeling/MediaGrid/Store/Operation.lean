import MediaGrid.Search.Snippet
import MediaGrid.Store.Basic

/-!
# Operations with the backend

Some operations of the store need answers from the backend. Such an operation runs until it
needs one and then waits: `Store.begin` starts it, and `Store.resume` goes on with the
answer, to the end or to the next call. What an operation still has to do is kept in a
`Pending` value, so any number of operations can wait at the same time, and other
operations may run before the answer comes.
-/

namespace MediaGrid

/-- An operation that may need the backend. -/
inductive Operation where
  /-- Begins a query at a page. -/
  | openQuery (queries : List Query) (page : Nat)
  /-- Asks for a further page of the active query. -/
  | furtherPage (page : Nat)
  /-- Clears the view and begins the active query again. -/
  | refill
  /-- Clears the view and begins the query of the search text. -/
  | submit
  /-- Loads metadata. -/
  | describe (ids : List ItemId)
  /-- Loads small images, so many at once. -/
  | thumbnails (ids : List ItemId) (chunk : Nat)
  /-- Loads a full-sized image. -/
  | image (id : ItemId)
  /-- Drops the small images that went out of view and loads those that came into view. -/
  | followScroll (entered exited : List ItemId)
  /-- Archives the selection. -/
  | archive
  /-- Deletes the selection. -/
  | delete
  /-- Edits the metadata of the selection. -/
  | edit (update : Metadata)
  /-- Computes the completions of the search text. -/
  | suggest
  deriving DecidableEq

/-- The tally of a load. -/
structure LoadTally where
  /-- How many ids were given. -/
  requested : Nat
  /-- How many contents were stored. -/
  loaded : Nat
  /-- How many fetches failed. -/
  failed : Nat
  /-- How many ids needed no fetch, and how many contents came too late. -/
  skipped : Nat
  deriving DecidableEq, Repr

/-- Whether a load had no effect. -/
def LoadTally.isNoop (summary : LoadTally) : Bool :=
  summary.loaded == 0 && summary.failed == 0

/-- What an operation returns. -/
inductive Outcome where
  /-- The ids it concerned. -/
  | ids (ids : List ItemId)
  /-- The tally of a load. -/
  | summary (summary : LoadTally)
  /-- Whether it was done. -/
  | done (value : Bool)
  /-- Completions. -/
  | completions (texts : List String)
  deriving DecidableEq, Repr

/-- What happens after a page of the query was handled. -/
inductive Purpose where
  /-- The result is returned. -/
  | report
  /-- The query was begun by an edit, which then goes on with these ids and this update. -/
  | edit (ids : List ItemId) (update : Metadata)
  deriving DecidableEq

/-- A request for a page of the active query. -/
structure PageRun where
  /-- The request. -/
  request : PageRequest
  /-- The epoch in which it was made. -/
  epoch : Nat
  /-- What happens afterwards. -/
  purpose : Purpose
  deriving DecidableEq

/-- A load of one byte facet of several entries. -/
structure ByteLoad where
  /-- The facet. -/
  facet : ByteFacet
  /-- How many contents are fetched at once. -/
  size : Nat
  /-- The claims that are being fetched. -/
  chunk : List (Claim × Artifact)
  /-- The claims that are fetched later. -/
  rest : List (Claim × Artifact)
  /-- The tally so far. -/
  summary : LoadTally
  deriving DecidableEq

/-- What an operation waits for and has to do. -/
inductive Pending where
  /-- Waits for a page of results. -/
  | page (run : PageRun)
  /-- Waits for the metadata of the entries that a page added. -/
  | pageRecords (run : PageRun) (added : List ItemId) (claimed : List (ItemId × Artifact))
  /-- Waits for metadata. -/
  | records (claimed : List (ItemId × Artifact))
  /-- Waits for the contents of a chunk. -/
  | contents (load : ByteLoad)
  /-- Waits for an archive to be written. -/
  | archive (items : List ArchiveEntry)
  /-- Waits for artifacts to be deleted. -/
  | delete (targets : List (ItemId × Artifact))
  /-- Waits for metadata to be changed. -/
  | edit (targets : List (ItemId × Artifact)) (update : Metadata)
  /-- Waits for the results that completions are mined from. -/
  | suggestPage (search : String) (request : PageRequest) (fragments : List String)
  /-- Waits for the metadata that completions are mined from. -/
  | suggestRecords (search : String) (refs : List Artifact) (fragments : List String)
  deriving DecidableEq

/-- The calls that are waited for, all made at once. -/
def Pending.calls : Pending → List Call
  | .page run => [.query run.request]
  | .pageRecords _ _ claimed => [.readRecords (claimed.map (·.2))]
  | .records claimed => [.readRecords (claimed.map (·.2))]
  | .contents load => load.chunk.map fun (_, ref) => .fetch ref load.facet
  | .archive items => [.archive items]
  | .delete targets => [.delete (targets.map (·.2))]
  | .edit targets update => [.changeRecords update (targets.map (·.2))]
  | .suggestPage _ request _ => [.query request]
  | .suggestRecords _ refs _ => [.readRecords refs]

/-- How far an operation is. -/
inductive Progress where
  /-- It ended. -/
  | done (result : Except Failure Outcome)
  /-- It waits. -/
  | waiting (pending : Pending)

namespace Store

/-! ## Pages -/

/-- Ends an edit: the update is applied to the metadata that was loaded again. -/
def finishEdit (store : Store) (ids : List ItemId) (update : Metadata) : Store × Progress :=
  let (amended, store) := store.amend ids update
  (store.moveRequest .metadataEdit .succeeded, .done (.ok (.ids amended)))

/-- Goes on after a page was handled. An edit does not mind if the page failed. -/
def afterPage (store : Store) (run : PageRun) (result : Except Failure (List ItemId)) :
    Store × Progress :=
  match run.purpose with
  | .report => (store, .done (result.map .ids))
  | .edit ids update => store.finishEdit ids update

/-- Asks the backend for a page. -/
def askPage (store : Store) (queries : List Query) (page epoch : Nat) (purpose : Purpose) :
    Store × Progress :=
  let request := ⟨queries, store.config.orderings, store.config.resultsPerPage, page⟩
  (store.moveRequest .query .loading, .waiting (.page ⟨request, epoch, purpose⟩))

/-- Begins a query and asks for its first page. -/
def openQuery (store : Store) (queries : List Query) (page : Nat) (purpose : Purpose) :
    Store × Progress :=
  let (epoch, grid) := store.grid.openQuery queries page
  { store with grid := grid }.askPage queries page epoch purpose

/-- Asks for a further page, unless the grid has no use for it. -/
def askFurther (store : Store) (page : Nat) : Store × Progress :=
  match store.grid.askFurther? page with
  | none => (store, .done (.ok (.ids [])))
  | some ((queries, epoch), grid) => { store with grid := grid }.askPage queries page epoch .report

/-- Ends a page whose metadata was loaded. -/
def settlePage (store : Store) (run : PageRun) (added : List ItemId) : Store × Progress :=
  (store.moveRequest .query .succeeded).afterPage run (.ok added)

/-- Merges a page of results and asks for the metadata of what it added. A page that is out
of date is dropped. -/
def mergePage (store : Store) (run : PageRun) (page : Page) : Store × Progress :=
  match store.grid.mergePage run.epoch page with
  | (none, grid) => { store with grid := grid }.afterPage run (.ok [])
  | (some merged, grid) =>
    let store := { store with grid := grid }.publishFor merged.added .added
    let store := store.publish (.pageMerged merged.page merged.hasMore)
    let (claimed, grid) := store.grid.claimRecords merged.added
    let store := { store with grid := grid }
    if claimed.isEmpty then store.settlePage run merged.added
    else (store, .waiting (.pageRecords run merged.added claimed))

/-- Handles a page that failed. The request fails with it, unless it is out of date. -/
def losePage (store : Store) (run : PageRun) (failure : Failure) : Store × Progress :=
  let store := match store.grid.withdrawPage? run.epoch with
    | none => store
    | some grid => { store with grid := grid }.requestFailed .query failure
  store.afterPage run (.error failure)

/-! ## Metadata -/

/-- Stores the records of a claim, and returns the ids that got one. -/
def storeRecords (store : Store) (claimed : List (ItemId × Artifact))
    (records : List (Artifact × Metadata)) : List ItemId × Store :=
  let (loaded, grid) := store.grid.settleRecords (claimed.map (·.1)) records
  (loaded, { store with grid := grid }.publishFor loaded .described)

/-- Gives up a claim of metadata. -/
def giveUpRecords (store : Store) (claimed : List (ItemId × Artifact)) : Store :=
  { store with grid := store.grid.giveUpRecords (claimed.map (·.1)) }

/-- Asks for the metadata of the entries that have none. -/
def askRecords (store : Store) (ids : List ItemId) : Store × Progress :=
  let (claimed, grid) := store.grid.claimRecords ids
  if claimed.isEmpty then (store, .done (.ok (.ids [])))
  else ({ store with grid := grid }, .waiting (.records claimed))

/-! ## Byte facets -/

/-- Asks for the next chunk of a load, or ends it. -/
def nextChunk (store : Store) (load : ByteLoad) : Store × Progress :=
  if load.rest.isEmpty then (store, .done (.ok (.summary load.summary)))
  else
    let size := max 1 load.size
    (store, .waiting (.contents
      { load with chunk := load.rest.take size, rest := load.rest.drop size }))

/-- Claims a facet of the given entries and asks for the contents. -/
def load (store : Store) (facet : ByteFacet) (ids : List ItemId) (size : Nat) :
    Store × Progress :=
  let (claims, grid) := store.grid.claimAll facet ids
  let summary := ⟨ids.length, 0, 0, ids.length - claims.length⟩
  { store with grid := grid }.nextChunk ⟨facet, size, [], claims, summary⟩

/-- Settles one claim with the outcome of its fetch. -/
def settleClaim (facet : ByteFacet) (state : Store × LoadTally) (claim : Claim)
    (outcome : Except Failure String) : Store × LoadTally :=
  let (store, summary) := state
  match outcome with
  | .ok content =>
    let (stored, store) := store.fill facet claim content
    (store,
      if stored then { summary with loaded := summary.loaded + 1 }
      else { summary with skipped := summary.skipped + 1 })
  | .error _ =>
    let store := match store.grid.giveUp? facet claim with
      | none => store
      | some grid => { store with grid := grid }
    (store, { summary with failed := summary.failed + 1 })

/-- Settles several claims in order. -/
def settleClaims (facet : ByteFacet) (state : Store × LoadTally)
    (settled : List ((Claim × Artifact) × Except Failure String)) : Store × LoadTally :=
  settled.foldl (fun state ((claim, _), outcome) => settleClaim facet state claim outcome) state

/-- Settles a chunk, and goes on with the next. -/
def settleChunk (store : Store) (load : ByteLoad) (outcomes : List (Except Failure String)) :
    Store × Progress :=
  let (store, summary) :=
    settleClaims load.facet (store, load.summary) (load.chunk.zip outcomes)
  store.nextChunk { load with chunk := [], summary := summary }

/-! ## Operations on the selection -/

/-- Deselects the selection and asks for it to be archived with its metadata. -/
def archive (store : Store) : Store × Progress :=
  match store.beginOnSelection .download with
  | none => (store, .done (.ok (.done false)))
  | some (targets, store) =>
    let items := targets.map fun (id, ref) =>
      ⟨ref, (store.grid.find? id).bind fun entry => entry.metadata.record?⟩
    let (_, store) := store.mark (some (targets.map (·.1))) false
    (store, .waiting (.archive items))

/-- Asks for the selection to be deleted. -/
def delete (store : Store) : Store × Progress :=
  match store.beginOnSelection .delete with
  | none => (store, .done (.ok (.ids [])))
  | some (targets, store) => (store, .waiting (.delete targets))

/-- Asks for the metadata of the selection to be changed. -/
def edit (store : Store) (update : Metadata) : Store × Progress :=
  match store.beginOnSelection .metadataEdit with
  | none => (store, .done (.ok (.ids [])))
  | some (targets, store) => (store, .waiting (.edit targets update))

/-- Goes on after the backend changed metadata: the view is dropped and filled again. -/
def rebuild (store : Store) (ids : List ItemId) (update : Metadata) : Store × Progress :=
  let store := (store.setDialog false).2.forget
  let all := store.grid.ids
  let store := (store.unload .thumbnail all).2
  let store := (store.unload .full all).2
  let store := store.clear true
  match store.grid.active with
  | none => store.finishEdit ids update
  | some active => store.openQuery active.queries 0 (.edit ids update)

/-! ## Completions -/

/-- Ends the computation of completions. -/
def finishSuggestions (store : Store) (search : String) (completions : List String) :
    Store × Progress :=
  (store.offerCompletions search completions, .done (.ok (.completions completions)))

/-- Caches completions and ends their computation. -/
def rememberSuggestions (store : Store) (search : String) (completions : List String) :
    Store × Progress :=
  (store.remember search completions).finishSuggestions search completions

/-- Takes completions from the cache, or asks for the results to mine them from. A search
without plain words has none. -/
def suggest (store : Store) : Store × Progress :=
  let search := store.grid.search
  match store.cached? search with
  | some completions => store.finishSuggestions search completions
  | none =>
    let plan := SearchPlan.ofText search
    if plan.fragments.isEmpty || store.config.suggestionLimit = 0 then
      store.finishSuggestions search []
    else
      let request := ⟨plan.queries, store.config.orderings, store.config.suggestionLimit, 0⟩
      (store, .waiting (.suggestPage search request plan.fragments))

/-! ## Beginning and resuming -/

/-- Starts an operation and runs it as far as it gets without an answer. -/
def begin (store : Store) : Operation → Store × Progress
  | .openQuery queries page => store.openQuery queries page .report
  | .furtherPage page => store.askFurther page
  | .refill =>
    match store.grid.active with
    | none => (store, .done (.ok (.ids [])))
    | some active => (store.clear true).openQuery active.queries 0 .report
  | .submit =>
    (store.clear false).openQuery (SearchPlan.ofText store.grid.search).queries 0 .report
  | .describe ids => store.askRecords ids
  | .thumbnails ids chunk => store.load .thumbnail ids chunk
  | .image id =>
    if store.grid.contains id then store.load .full [id] 1
    else (store, .done (.error (.notFound id)))
  | .followScroll entered exited =>
    (store.unload .thumbnail exited).2.load .thumbnail entered
      store.config.thumbnailChunk
  | .archive => store.archive
  | .delete => store.delete
  | .edit update => store.edit update
  | .suggest => store.suggest

/-- Goes on with the answer that an operation waits for. A reply of another kind is no
answer. -/
def resume (store : Store) : Pending → Reply → Option (Store × Progress)
  | .page run, .page (.ok page) => some (store.mergePage run page)
  | .page run, .page (.error failure) => some (store.losePage run failure)
  | .pageRecords run added claimed, .records (.ok records) =>
    some ((store.storeRecords claimed records).2.settlePage run added)
  | .pageRecords run _ claimed, .records (.error failure) =>
    some (((store.giveUpRecords claimed).requestFailed .query failure).afterPage run
      (.error failure))
  | .records claimed, .records (.ok records) =>
    let (loaded, store) := store.storeRecords claimed records
    some (store, .done (.ok (.ids loaded)))
  | .records claimed, .records (.error failure) =>
    some (store.giveUpRecords claimed, .done (.error failure))
  | .contents load, .fetched outcomes =>
    if outcomes.length = load.chunk.length then some (store.settleChunk load outcomes) else none
  | .archive _, .settled (.ok ()) =>
    some (store.moveRequest .download .succeeded, .done (.ok (.done true)))
  | .archive _, .settled (.error failure) =>
    some (store.requestFailed .download failure, .done (.error failure))
  | .delete targets, .settled (.ok ()) =>
    let (removed, store) := store.forget.discard (targets.map (·.1))
    some (store.moveRequest .delete .succeeded, .done (.ok (.ids removed)))
  | .delete _, .settled (.error failure) =>
    some (store.requestFailed .delete failure, .done (.error failure))
  | .edit targets update, .settled (.ok ()) => some (store.rebuild (targets.map (·.1)) update)
  | .edit _ _, .settled (.error failure) =>
    some (store.requestFailed .metadataEdit failure, .done (.error failure))
  | .suggestPage search _ fragments, .page (.ok page) =>
    if page.refs.isEmpty then some (store.rememberSuggestions search [])
    else some (store, .waiting (.suggestRecords search page.refs fragments))
  | .suggestPage _ _ _, .page (.error failure) => some (store, .done (.error failure))
  | .suggestRecords search _ fragments, .records (.ok records) =>
    some (store.rememberSuggestions search
      (mineCompletions fragments (records.map (·.2)) store.config.snippetLength))
  | .suggestRecords _ _ _, .records (.error failure) => some (store, .done (.error failure))
  | _, _ => none

end Store

/-- How many more answers an operation needs at most. -/
def Pending.rounds : Pending → Nat
  | .edit _ _ => 3
  | .page _ => 2
  | .pageRecords _ _ _ => 1
  | .records _ => 1
  | .contents load => 1 + load.rest.length
  | .archive _ => 1
  | .delete _ => 1
  | .suggestPage _ _ _ => 2
  | .suggestRecords _ _ _ => 1

end MediaGrid
