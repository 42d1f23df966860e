import MediaGrid.Proofs.Store.Waiting
import MediaGrid.Proofs.Text.Blank

/-!
# The cache of completions

The cache is changed by the computations of completions and by operations that change what the
backend keeps: a computation that ends puts its completions in, and an edit or a deletion that
succeeds empties the cache. Everything else leaves it alone, and nothing changes the configuration.
Completions are kept under the search text without its outer blanks. Searches that share such a key
are compiled to the same words and queries, so the key tells all that the completions depend on.
-/

namespace MediaGrid

/-! ## Keys -/

/-- Searches that differ in outer blanks only have the same plan. -/
theorem SearchPlan.ofText_eq_of_trim_eq {search other : String}
    (h : Text.trim search = Text.trim other) : ofText search = ofText other := by
  simp only [ofText, Token.ofText, Text.words_eq_of_trim_eq h]

namespace Store

/-- What is cached for a search is what stands under its key. -/
theorem cached?_eq_some {store : Store} {search : String} {texts : List String}
    (h : store.cached? search = some texts) :
    store.config.cacheSeconds ≠ 0 ∧ (Text.trim search, texts) ∈ store.cache := by
  unfold cached? at h
  split at h
  · cases h
  · rename_i hseconds
    obtain ⟨entry, hfound, rfl⟩ := Option.map_eq_some_iff.mp h
    have hkey : entry.1 = Text.trim search := by simpa using List.find?_some hfound
    exact ⟨hseconds, hkey ▸ List.mem_of_find?_eq_some hfound⟩

/-- After completions were put in, the cache has them under their key, and what it had elsewhere. -/
theorem mem_cache_remember {store : Store} {search : String} {texts : List String}
    {entry : String × List String} (h : entry ∈ (store.remember search texts).cache) :
    entry = (Text.trim search, texts) ∨ entry ∈ store.cache :=
  (List.mem_cons.mp h).imp_right fun hm => (List.mem_filter.mp hm).1

/-! ## What leaves the cache alone -/

/-- The configuration and the cache are the same. -/
structure SameCache (before after : Store) : Prop where
  /-- The configuration. -/
  config : after.config = before.config
  /-- The cache. -/
  cache : after.cache = before.cache

namespace SameCache

variable {before middle after : Store}

protected theorem refl (store : Store) : store.SameCache store := ⟨rfl, rfl⟩

theorem trans (h : before.SameCache middle) (h' : middle.SameCache after) :
    before.SameCache after :=
  ⟨h'.config.trans h.config, h'.cache.trans h.cache⟩

/-- Another grid and another shelf leave the cache alone. -/
theorem of_parts {store : Store} {grid : Grid} {shelf : Shelf} :
    store.SameCache { store with grid := grid, shelf := shelf } := ⟨rfl, rfl⟩

end SameCache

variable (store : Store)

theorem sameCache_publishFor (ids : List ItemId) (event : List ItemId → Event) :
    store.SameCache (store.publishFor ids event) := by
  unfold publishFor
  split <;> exact ⟨rfl, rfl⟩

theorem sameCache_commit (changed : Option Grid) (event : Grid → Event) :
    store.SameCache (store.commit changed event).2 := by
  unfold commit
  split <;> exact ⟨rfl, rfl⟩

theorem sameCache_moveRequest (kind : Request) (state : RequestStatus) :
    store.SameCache (store.moveRequest kind state) :=
  store.sameCache_commit _ _

theorem sameCache_addAll (refs : List Artifact) : store.SameCache (store.addAll refs).2 :=
  SameCache.of_parts.trans (sameCache_publishFor _ _ _)

theorem sameCache_clear (keepQuery : Bool) : store.SameCache (store.clear keepQuery) := by
  unfold clear
  dsimp only
  split <;> exact ⟨rfl, rfl⟩

theorem sameCache_unload (facet : ByteFacet) (ids : List ItemId) :
    store.SameCache (store.unload facet ids).2 := by
  unfold unload
  dsimp only
  exact SameCache.of_parts.trans (sameCache_publishFor _ _ _)

theorem sameCache_fill (facet : ByteFacet) (claim : Claim) (content : String) :
    store.SameCache (store.fill facet claim content).2 := by
  unfold fill
  dsimp only
  split <;> exact ⟨rfl, rfl⟩

theorem sameCache_discard (ids : List ItemId) : store.SameCache (store.discard ids).2 := by
  unfold discard
  dsimp only
  exact (SameCache.of_parts.trans (sameCache_publishFor _ _ _)).trans (sameCache_publishFor _ _ _)

theorem sameCache_amend (ids : List ItemId) (update : Metadata) :
    store.SameCache (store.amend ids update).2 :=
  SameCache.of_parts.trans (sameCache_publishFor _ _ _)

theorem sameCache_mark (ids : Option (List ItemId)) (value : Bool) :
    store.SameCache (store.mark ids value).2 := by
  unfold mark
  dsimp only
  split <;> exact ⟨rfl, rfl⟩

theorem sameCache_setDialog (isOpen : Bool) : store.SameCache (store.setDialog isOpen).2 :=
  store.sameCache_commit _ _

theorem sameCache_showVideo (urlsOf : Artifact → Option VideoLinks) (id : ItemId) :
    store.SameCache (store.showVideo urlsOf id).2 := by
  rcases store.showVideo_cases urlsOf id with ⟨hkept, -⟩ | ⟨-, urls, -, -, hset⟩
  · rw [hkept]
    exact .refl store
  · rw [hset]
    exact store.sameCache_commit _ _

theorem sameCache_offerCompletions (search : String) (texts : List String) :
    store.SameCache (store.offerCompletions search texts) := by
  unfold offerCompletions
  split
  · exact store.sameCache_commit _ _
  · exact .refl store

theorem sameCache_storeRecords (claimed : List (ItemId × Artifact))
    (records : List (Artifact × Metadata)) :
    store.SameCache (store.storeRecords claimed records).2 :=
  SameCache.of_parts.trans (sameCache_publishFor _ _ _)

/-- A command leaves the cache alone. -/
theorem sameCache_obey (command : Command) : store.SameCache (store.obey command) := by
  cases command with
  | add refs => exact store.sameCache_addAll refs
  | clear keepQuery => exact store.sameCache_clear keepQuery
  | unload facet ids => exact store.sameCache_unload facet ids
  | mark ids value => exact store.sameCache_mark ids value
  | dialog isOpen => exact store.sameCache_setDialog isOpen
  | showVideo urlsOf id => exact store.sameCache_showVideo urlsOf id
  | hideVideo id => exact store.sameCache_commit _ _
  | typeSearch search => exact store.sameCache_commit _ _
  | pick completion => exact store.sameCache_commit _ _

/-! ## Between two calls -/

theorem sameCache_finishEdit (ids : List ItemId) (update : Metadata) :
    store.SameCache (store.finishEdit ids update).1 :=
  (store.sameCache_amend ids update).trans (sameCache_moveRequest _ _ _)

theorem sameCache_afterPage (run : PageRun) (result : Except Failure (List ItemId)) :
    store.SameCache (store.afterPage run result).1 := by
  unfold afterPage
  split
  · exact .refl store
  · exact store.sameCache_finishEdit _ _

theorem sameCache_openQuery (queries : List Query) (page : Nat) (purpose : Purpose) :
    store.SameCache (store.openQuery queries page purpose).1 :=
  SameCache.of_parts.trans (sameCache_moveRequest _ _ _)

theorem sameCache_settlePage (run : PageRun) (added : List ItemId) :
    store.SameCache (store.settlePage run added).1 :=
  (store.sameCache_moveRequest _ _).trans (sameCache_afterPage _ _ _)

theorem sameCache_mergePage (run : PageRun) (page : Page) :
    store.SameCache (store.mergePage run page).1 := by
  unfold mergePage
  split
  · exact SameCache.of_parts.trans (sameCache_afterPage _ _ _)
  · rename_i merged grid _
    have hmerged : store.SameCache
        (({ store with grid := grid }.publishFor merged.added .added).publish
          (.pageMerged merged.page merged.hasMore)) :=
      (SameCache.of_parts.trans (sameCache_publishFor _ _ _)).trans ⟨rfl, rfl⟩
    dsimp only
    split
    · exact (hmerged.trans .of_parts).trans (sameCache_settlePage _ _ _)
    · exact hmerged.trans .of_parts

theorem sameCache_losePage (run : PageRun) (failure : Failure) :
    store.SameCache (store.losePage run failure).1 := by
  unfold losePage
  cases store.grid.withdrawPage? run.epoch with
  | none => exact store.sameCache_afterPage _ _
  | some grid =>
    exact (SameCache.of_parts.trans (sameCache_moveRequest _ _ _)).trans
      (sameCache_afterPage _ _ _)

theorem sameCache_nextChunk (load : ByteLoad) : store.SameCache (store.nextChunk load).1 := by
  unfold nextChunk
  split <;> exact .refl store

theorem sameCache_load (facet : ByteFacet) (ids : List ItemId) (size : Nat) :
    store.SameCache (store.load facet ids size).1 :=
  SameCache.of_parts.trans (sameCache_nextChunk _ _)

theorem sameCache_settleClaim (facet : ByteFacet) (state : Store × LoadTally) (claim : Claim)
    (outcome : Except Failure String) :
    state.1.SameCache (settleClaim facet state claim outcome).1 := by
  cases outcome with
  | ok content => exact state.1.sameCache_fill facet claim content
  | error failure =>
    simp only [settleClaim]
    split
    · exact .refl state.1
    · exact ⟨rfl, rfl⟩

theorem sameCache_settleClaims (facet : ByteFacet) (state : Store × LoadTally)
    (settled : List ((Claim × Artifact) × Except Failure String)) :
    state.1.SameCache (settleClaims facet state settled).1 := by
  induction settled generalizing state with
  | nil => exact .refl state.1
  | cons head rest ih =>
    exact (sameCache_settleClaim facet state head.1.1 head.2).trans (ih _)

variable {store} in
/-- An operation that starts leaves the cache alone. -/
theorem sameCache_begin {operation : Operation} {result : Store × Progress}
    (h : store.Begins operation result) : store.SameCache result.1 := by
  cases h with
  | declined operation outcome hdeclines => exact .refl store
  | openQuery queries page => exact store.sameCache_openQuery queries page .report
  | furtherPage page queries epoch asked hask =>
    exact SameCache.of_parts.trans (sameCache_moveRequest _ _ _)
  | refill active hactive => exact (store.sameCache_clear true).trans (sameCache_openQuery _ _ _ _)
  | submit => exact (store.sameCache_clear false).trans (sameCache_openQuery _ _ _ _)
  | describe ids hsome => exact .of_parts
  | thumbnails ids chunk => exact store.sameCache_load .thumbnail ids chunk
  | image id hin => exact store.sameCache_load .full [id] 1
  | followScroll entered exited =>
    exact (store.sameCache_unload .thumbnail exited).trans (sameCache_load _ _ _ _)
  | archive targets hbegin =>
    exact (store.sameCache_moveRequest .download .loading).trans (sameCache_mark _ _ false)
  | delete targets hbegin => exact store.sameCache_moveRequest .delete .loading
  | edit update targets hbegin => exact store.sameCache_moveRequest .metadataEdit .loading
  | suggestCached texts hcached => exact store.sameCache_offerCompletions _ texts
  | suggestNone hcached hnone => exact store.sameCache_offerCompletions _ []
  | suggestPage hcached hwords hlimit => exact .refl store

/-- An edit empties the cache before it drops the view. -/
theorem sameCache_rebuild (ids : List ItemId) (update : Metadata) :
    store.forget.SameCache (store.rebuild ids update).1 := by
  have hclosed : store.forget.SameCache (store.setDialog false).2.forget :=
    ⟨(store.sameCache_setDialog false).config, rfl⟩
  unfold rebuild
  dsimp only
  generalize (store.setDialog false).2.forget = closed at hclosed ⊢
  have hcleared := ((hclosed.trans (closed.sameCache_unload .thumbnail closed.grid.ids)).trans
    (sameCache_unload _ .full closed.grid.ids)).trans (sameCache_clear _ true)
  split
  · exact hcleared.trans (sameCache_finishEdit _ ids update)
  · exact hcleared.trans (sameCache_openQuery _ _ 0 (.edit ids update))

end Store

/-! ## What changes the cache -/

/-- The search and its completions, if an answer ends their computation. -/
def Pending.computed? (length : Nat) : Pending → Reply → Option (String × List String)
  | .suggestPage search _ _, .page (.ok found) =>
    if found.refs.isEmpty then some (search, []) else none
  | .suggestRecords search _ fragments, .records (.ok found) =>
    some (search, mineCompletions fragments (found.map (·.2)) length)
  | _, _ => none

/-- Whether an answer tells that the backend changed what it keeps. -/
def Pending.forgets : Pending → Reply → Bool
  | .delete _, .settled (.ok ()) => true
  | .edit _ _, .settled (.ok ()) => true
  | _, _ => false

namespace Store

/-- The cache after an operation went on with an answer. -/
def cacheAfter (store : Store) (pending : Pending) (reply : Reply) :
    List (String × List String) :=
  match pending.computed? store.config.snippetLength reply with
  | some (search, texts) => (store.remember search texts).cache
  | none => if pending.forgets reply then [] else store.cache

variable {store : Store}

/-- What is cached when an operation goes on was so before, unless the operation computed it. -/
theorem mem_cacheAfter {pending : Pending} {reply : Reply} {entry : String × List String}
    (h : entry ∈ store.cacheAfter pending reply) :
    entry ∈ store.cache ∨ ∃ search texts,
      pending.computed? store.config.snippetLength reply = some (search, texts) ∧
        entry = (Text.trim search, texts) := by
  unfold cacheAfter at h
  split at h
  · rename_i search texts hcomputed
    exact (mem_cache_remember h).symm.imp_right fun hnew => ⟨search, texts, hcomputed, hnew⟩
  · split at h
    · cases h
    · exact Or.inl h

/-- Where the backend changed what it keeps, the cache is empty. -/
theorem cacheAfter_of_forgets {pending : Pending} {reply : Reply} (h : pending.forgets reply) :
    store.cacheAfter pending reply = [] := by
  unfold Pending.forgets at h
  split at h
  · rfl
  · rfl
  · cases h

/-- An operation that goes on leaves the configuration alone, and the cache as told. -/
theorem cache_resume {pending : Pending} {reply : Reply} {result : Store × Progress}
    (h : store.resume pending reply = some result) :
    result.1.config = store.config ∧ result.1.cache = store.cacheAfter pending reply := by
  have hsame : ∀ {after : Store}, store.SameCache after →
      after.config = store.config ∧ after.cache = store.cache :=
    fun same => ⟨same.config, same.cache⟩
  have hoffered : ∀ search texts,
      (store.remember search texts).SameCache (store.rememberSuggestions search texts).1 :=
    fun search texts => sameCache_offerCompletions _ search texts
  cases resumes_of_eq_some h with
  | page run page => exact hsame (store.sameCache_mergePage run page)
  | pageLost run failure => exact hsame (store.sameCache_losePage run failure)
  | pageRecords run added claimed records =>
    exact hsame ((store.sameCache_storeRecords _ _).trans (sameCache_settlePage _ _ _))
  | pageRecordsLost run added claimed failure =>
    have hgiven : store.SameCache (store.giveUpRecords claimed) := ⟨rfl, rfl⟩
    exact hsame ((hgiven.trans (sameCache_moveRequest _ _ _)).trans (sameCache_afterPage _ _ _))
  | records claimed records => exact hsame (store.sameCache_storeRecords _ _)
  | recordsLost claimed failure => exact ⟨rfl, rfl⟩
  | contents load outcomes hlength =>
    exact hsame ((sameCache_settleClaims _ (store, load.summary) _).trans
      (sameCache_nextChunk _ _))
  | archive items => exact hsame (store.sameCache_moveRequest _ _)
  | archiveLost items failure => exact hsame (store.sameCache_moveRequest _ _)
  | delete targets =>
    have hforgot := (store.forget.sameCache_discard (targets.map (·.1))).trans
      (sameCache_moveRequest _ .delete .succeeded)
    exact ⟨hforgot.config, hforgot.cache⟩
  | deleteLost targets failure => exact hsame (store.sameCache_moveRequest _ _)
  | edit targets update =>
    have hforgot := store.sameCache_rebuild (targets.map (·.1)) update
    exact ⟨hforgot.config, hforgot.cache⟩
  | editLost targets update failure => exact hsame (store.sameCache_moveRequest _ _)
  | suggestNone search request fragments page hempty =>
    rw [cacheAfter, Pending.computed?, if_pos hempty]
    exact ⟨(hoffered search []).config, (hoffered search []).cache⟩
  | suggestPage search request fragments page hsome =>
    rw [cacheAfter, Pending.computed?, if_neg hsome]
    exact ⟨rfl, rfl⟩
  | suggestPageLost search request fragments failure => exact ⟨rfl, rfl⟩
  | suggestRecords search refs fragments records =>
    exact ⟨(hoffered search _).config, (hoffered search _).cache⟩
  | suggestRecordsLost search refs fragments failure => exact ⟨rfl, rfl⟩

end Store

/-! ## Who computes completions -/

/-- The search that an operation computes completions for. -/
def Pending.search? : Pending → Option String
  | .suggestPage search _ _ => some search
  | .suggestRecords search _ _ => some search
  | _ => none

/-- The request for the results that the completions of a search are mined from. -/
def Config.miningRequest (config : Config) (search : String) : PageRequest :=
  ⟨(SearchPlan.ofText search).queries, config.orderings, config.suggestionLimit, 0⟩

namespace Store

variable {store : Store}

/-- What waits alone computes no completions, if it is no such computation. -/
theorem search?_of_mem {pending other : Pending} (h : pending ∈ [other])
    (hnone : other.search? = none) : pending.search? = none := by
  rwa [List.mem_singleton.mp h]

theorem search?_nextChunk {load : ByteLoad} {pending : Pending}
    (h : pending ∈ (store.nextChunk load).2.pendings) : pending.search? = none := by
  unfold nextChunk at h
  split at h
  · cases h
  · exact search?_of_mem h rfl

/-- An operation that starts and then waits computes completions only if it was started for
that. -/
theorem search?_begin {operation : Operation} {result : Store × Progress} {pending : Pending}
    (h : store.Begins operation result) (hm : pending ∈ result.2.pendings) :
    pending.search? = none ∨ operation = .suggest ∧ store.config.suggestionLimit ≠ 0 ∧
      pending = .suggestPage store.grid.search (store.config.miningRequest store.grid.search)
        (SearchPlan.ofText store.grid.search).fragments := by
  cases h with
  | declined | suggestCached | suggestNone => cases hm
  | thumbnails | image | followScroll => exact Or.inl (search?_nextChunk hm)
  | suggestPage hcached hwords hlimit =>
    exact Or.inr ⟨rfl, hlimit, List.mem_singleton.mp hm⟩
  | _ => exact Or.inl (search?_of_mem hm rfl)

/-- An operation that goes on and waits again computes completions only if results came for it
to mine them from. -/
theorem search?_resume {pending next : Pending} {reply : Reply} {result : Store × Progress}
    (h : store.resume pending reply = some result) (hm : next ∈ result.2.pendings) :
    next.search? = none ∨ ∃ search request fragments page,
      pending = .suggestPage search request fragments ∧ reply = .page (.ok page) ∧
        next = .suggestRecords search page.refs fragments := by
  have hended : ∀ {middle : Store} {run outcome},
      next ∉ (middle.afterPage run outcome).2.pendings := by
    intro middle run outcome hin
    rw [pendings_afterPage] at hin
    cases hin
  cases resumes_of_eq_some h with
  | page run page =>
    unfold mergePage at hm
    split at hm
    · exact absurd hm hended
    · dsimp only at hm
      split at hm
      · exact absurd hm hended
      · exact Or.inl (search?_of_mem hm rfl)
  | pageLost run failure => exact absurd hm hended
  | pageRecords run added claimed records => exact absurd hm hended
  | pageRecordsLost run added claimed failure => exact absurd hm hended
  | contents load outcomes hlength => exact Or.inl (search?_nextChunk hm)
  | edit targets update =>
    unfold rebuild at hm
    dsimp only at hm
    split at hm
    · cases hm
    · exact Or.inl (search?_of_mem hm rfl)
  | suggestPage search request fragments page hsome =>
    exact Or.inr ⟨search, request, fragments, page, rfl, rfl, List.mem_singleton.mp hm⟩
  | _ => cases hm

end Store

end MediaGrid
