import MediaGrid.Proofs.Store.Alone
import MediaGrid.Proofs.Store.Cache

/-!
# Completions do not depend on the cache

A store that works alone with its collection returns for a search the completions that the rows of
the collection give for it at that time, be they cached or not. Every way in which the store changes
rows empties the cache, so what is cached always goes by the rows there are; rows that are put in
past the store are left out here. Cached completions neither expire nor make room for others, which
would only lead to their being computed again.
-/

namespace MediaGrid

namespace Collection

variable {collection after : Collection}

/-! ## What the rows give for a search -/

/-- The first artifacts that a search finds, as many as are looked at for completions. -/
def mined (collection : Collection) (config : Config) (search : String) : List Artifact :=
  (collection.matching (SearchPlan.ofText search).queries).take config.suggestionLimit

/-- The completions of a search: what the words of the search give in the records of the first
artifacts that it finds. -/
def completionsOf (collection : Collection) (config : Config) (search : String) : List String :=
  mineCompletions (SearchPlan.ofText search).fragments
    ((collection.mined config search).filterMap collection.recordOf?) config.snippetLength

/-- Searches that differ in outer blanks only have the same completions. -/
theorem completionsOf_eq_of_trim_eq {search other : String}
    (h : Text.trim search = Text.trim other) (config : Config) :
    collection.completionsOf config search = collection.completionsOf config other := by
  rw [completionsOf, mined, SearchPlan.ofText_eq_of_trim_eq h]
  rfl

/-- A search without words has no completions. -/
theorem completionsOf_of_no_fragments {config : Config} {search : String}
    (h : (SearchPlan.ofText search).fragments = []) :
    collection.completionsOf config search = [] := by
  rw [completionsOf, h]
  rfl

/-- A search that finds nothing has no completions. -/
theorem completionsOf_of_mined {config : Config} {search : String}
    (h : collection.mined config search = []) : collection.completionsOf config search = [] := by
  have hnone : ∀ fragments : List String,
      (fragments.flatMap fun _ => ([] : List String)) = [] := fun fragments =>
    List.flatMap_eq_nil_iff.mpr fun _ _ => rfl
  rw [completionsOf, h, List.filterMap_nil, mineCompletions]
  simp only [List.flatMap_nil]
  rw [hnone]
  rfl

/-- The rows alone decide what is looked at and what the completions are. -/
theorem mined_of_rows (h : after.rows = collection.rows) (config : Config) (search : String) :
    after.mined config search = collection.mined config search := by
  rw [mined, matching, h]
  rfl

theorem completionsOf_of_rows (h : after.rows = collection.rows) (config : Config)
    (search : String) :
    after.completionsOf config search = collection.completionsOf config search := by
  rw [completionsOf, mined_of_rows h, recordOf?_of_rows h]
  rfl

/-! ## What the collection replies -/

/-- A request for what is mined brings just that. -/
theorem refs_of_answer {config : Config} {search : String} {page : Page}
    (h : collection.answer (config.miningRequest search) = .ok page) :
    page.refs = collection.mined config search := by
  cases hcheck : collection.check .query with
  | error failure => simp [answer, hcheck, bind, Except.bind] at h
  | ok _ =>
    simp only [answer, hcheck, bind, Except.bind] at h
    split at h
    · cases h
    · cases h
      simp only [Config.miningRequest, Nat.zero_mul, List.drop_zero]
      rfl

/-- Where queries do not fail, a request for what is mined has an answer. -/
theorem exists_answer_mining {config : Config} (search : String)
    (hquery : .query ∉ collection.failing) (hlimit : config.suggestionLimit ≠ 0) :
    ∃ page, collection.answer (config.miningRequest search) = .ok page := by
  rw [answer, check, if_neg hquery]
  simp only [bind, Except.bind, pure, Except.pure]
  rw [if_neg (show (config.miningRequest search).resultsPerPage ≠ 0 from hlimit)]
  exact ⟨_, rfl⟩

/-- Metadata that was read is that of the artifacts asked for. -/
theorem map_of_records {refs : List Artifact} {records : List (Artifact × Metadata)}
    (h : collection.records refs = .ok records) :
    records.map (·.2) = refs.filterMap collection.recordOf? := by
  cases hcheck : collection.check .readRecords with
  | error failure => simp [Collection.records, hcheck, bind, Except.bind] at h
  | ok _ =>
    simp only [Collection.records, hcheck, bind, Except.bind, pure, Except.pure,
      Except.ok.injEq] at h
    rw [← h, List.map_filterMap]
    rfl

/-- Where reading metadata does not fail, there is an answer. -/
theorem exists_records (refs : List Artifact) (hread : .readRecords ∉ collection.failing) :
    ∃ records, collection.records refs = .ok records := by
  rw [Collection.records, check, if_neg hread]
  exact ⟨_, rfl⟩

/-- What a collection replies leaves its rows alone, unless it tells that they changed. -/
theorem rows_reply? {pending : Pending} {reply : Reply}
    (h : collection.reply? pending = (some reply, after)) :
    after.rows = collection.rows ∨ pending.forgets reply := by
  cases pending with
  | contents load =>
    cases h
    exact Or.inl (collection.fetchAll_rest _ _).1
  | archive items =>
    simp only [reply?, Pending.calls, perform, archive] at h
    split at h <;> cases h <;> exact Or.inl rfl
  | delete targets =>
    simp only [reply?, Pending.calls, perform, delete] at h
    split at h <;> cases h
    · exact Or.inl rfl
    · exact Or.inr rfl
  | edit targets update =>
    simp only [reply?, Pending.calls, perform, changeRecords] at h
    split at h <;> cases h
    · exact Or.inl rfl
    · exact Or.inr rfl
  | _ =>
    cases h
    exact Or.inl rfl

/-! ## Operations answered to their end -/

/-- What an operation returns that ran as far as it gets and is answered so many times, if it is
over by then. -/
def resultOf? : Nat → Collection → Store × Progress → Option (Except Failure Outcome)
  | _, _, (_, .done result) => some result
  | 0, _, (_, .waiting _) => none
  | count + 1, collection, (store, .waiting pending) =>
    match collection.reply? pending with
    | (none, _) => none
    | (some reply, collection) =>
      (store.resume pending reply).bind (resultOf? count collection)

end Collection

/-- How many more answers an operation needs at most that ran as far as it gets. -/
def Progress.rounds : Progress → Nat
  | .done _ => 0
  | .waiting pending => pending.rounds

/-- What an operation returns that is started now and answered to its end. -/
def Solo.result? (solo : Solo) (operation : Operation) : Option (Except Failure Outcome) :=
  let started := solo.store.begin operation
  solo.collection.resultOf? started.2.rounds started

/-! ## What is cached goes by the rows -/

/-- What an operation waits for that computes completions goes by the rows of a collection. -/
def Pending.GoesBy (collection : Collection) (config : Config) : Pending → Prop
  | .suggestPage search request fragments =>
    config.suggestionLimit ≠ 0 ∧ request = config.miningRequest search ∧
      fragments = (SearchPlan.ofText search).fragments
  | .suggestRecords search refs fragments =>
    refs = collection.mined config search ∧ fragments = (SearchPlan.ofText search).fragments
  | _ => True

/-- The cached completions are those that the rows of a collection give. -/
def Collection.Backs (collection : Collection) (config : Config)
    (cache : List (String × List String)) : Prop :=
  ∀ search texts, (Text.trim search, texts) ∈ cache → texts = collection.completionsOf config search

variable {collection after : Collection} {config : Config} {store : Store}

/-- What computes no completions goes by any rows. -/
theorem Pending.goesBy_of_search? {pending : Pending} (h : pending.search? = none) :
    pending.GoesBy collection config := by
  cases pending with
  | suggestPage search request fragments => cases h
  | suggestRecords search refs fragments => cases h
  | _ => trivial

theorem Pending.GoesBy.of_rows {pending : Pending} (h : pending.GoesBy collection config)
    (hrows : after.rows = collection.rows) : pending.GoesBy after config := by
  cases pending with
  | suggestRecords search refs fragments =>
    exact ⟨h.1.trans (Collection.mined_of_rows hrows config search).symm, h.2⟩
  | _ => exact h

/-- An operation that starts and then waits goes by the rows. -/
theorem Store.goesBy_begin (collection : Collection) {operation : Operation} {pending : Pending}
    (h : pending ∈ (store.begin operation).2.pendings) :
    pending.GoesBy collection store.config := by
  rcases search?_begin (store.begins operation) h with hnone | ⟨-, hlimit, rfl⟩
  · exact Pending.goesBy_of_search? hnone
  · exact ⟨hlimit, rfl, rfl⟩

namespace Collection

theorem Backs.of_rows {cache : List (String × List String)} (h : collection.Backs config cache)
    (hrows : after.rows = collection.rows) : after.Backs config cache := fun search texts hm =>
  (h search texts hm).trans (completionsOf_of_rows hrows config search).symm

/-- Completions whose computation a reply ends are those that the rows give. -/
theorem computed?_reply? {pending : Pending} {reply : Reply}
    (hpending : pending.GoesBy collection config)
    (hreply : collection.reply? pending = (some reply, after)) {search : String}
    {texts : List String}
    (h : pending.computed? config.snippetLength reply = some (search, texts)) :
    texts = collection.completionsOf config search := by
  unfold Pending.computed? at h
  split at h
  · rename_i _ request fragments page
    obtain ⟨-, rfl, -⟩ := hpending
    split at h
    · rename_i hempty
      cases h
      have hanswer : collection.answer (config.miningRequest search) = .ok page :=
        Reply.page.inj (Option.some.inj (Prod.mk.inj hreply).1)
      have hmined := (refs_of_answer hanswer).symm.trans (List.isEmpty_iff.mp hempty)
      exact (completionsOf_of_mined hmined).symm
    · cases h
  · rename_i _ refs fragments records
    obtain ⟨rfl, rfl⟩ := hpending
    cases h
    have hrecords : collection.records (collection.mined config search) = .ok records :=
      Reply.records.inj (Option.some.inj (Prod.mk.inj hreply).1)
    rw [map_of_records hrecords]
    rfl
  · cases h

/-- What is cached goes by the rows when the collection replied. -/
theorem Backs.reply? (h : collection.Backs store.config store.cache) {pending : Pending}
    {reply : Reply} (hpending : pending.GoesBy collection store.config)
    (hreply : collection.reply? pending = (some reply, after)) :
    after.Backs store.config (store.cacheAfter pending reply) := by
  rcases rows_reply? hreply with hrows | hforgets
  · refine Backs.of_rows (fun search texts hm => ?_) hrows
    rcases Store.mem_cacheAfter hm with hold | ⟨own, computed, hcomputed, hentry⟩
    · exact h search texts hold
    · obtain ⟨hkey, rfl⟩ := Prod.mk.inj hentry
      rw [completionsOf_eq_of_trim_eq hkey]
      exact computed?_reply? hpending hreply hcomputed
  · rw [Store.cacheAfter_of_forgets hforgets]
    exact fun _ _ hm => absurd hm List.not_mem_nil

/-! ## What a computation of completions returns -/

/-- A computation that found what to mine returns the completions of its metadata. -/
theorem resultOf?_records (store : Store) (search : String) (refs : List Artifact)
    (fragments : List String) (hread : .readRecords ∉ collection.failing) :
    collection.resultOf? 1 (store, .waiting (.suggestRecords search refs fragments)) =
      some (.ok (.completions (mineCompletions fragments (refs.filterMap collection.recordOf?)
        store.config.snippetLength))) := by
  obtain ⟨records, hrecords⟩ := exists_records refs hread
  have hreply : collection.reply? (.suggestRecords search refs fragments) =
      (some (.records (.ok records)), (collection.readRecords refs).2) := by
    rw [← hrecords]
    rfl
  rw [resultOf?, hreply, ← map_of_records hrecords]
  rfl

/-- A computation that looks for what to mine returns the completions of the search. -/
theorem resultOf?_page (store : Store) (search : String) (hquery : .query ∉ collection.failing)
    (hread : .readRecords ∉ collection.failing) (hlimit : store.config.suggestionLimit ≠ 0) :
    collection.resultOf? 2 (store, .waiting (.suggestPage search
        (store.config.miningRequest search) (SearchPlan.ofText search).fragments)) =
      some (.ok (.completions (collection.completionsOf store.config search))) := by
  obtain ⟨page, hanswer⟩ := exists_answer_mining search hquery hlimit
  have hmined := refs_of_answer hanswer
  let asked := (collection.query (store.config.miningRequest search)).2
  have hrows : asked.rows = collection.rows := rfl
  have hreply : collection.reply? (.suggestPage search (store.config.miningRequest search)
      (SearchPlan.ofText search).fragments) = (some (.page (.ok page)), asked) := by
    rw [← hanswer]
    rfl
  rw [resultOf?, hreply]
  simp only [Store.resume]
  split
  · rename_i hempty
    rw [List.isEmpty_iff.mp hempty] at hmined
    rw [completionsOf_of_mined hmined.symm]
    rfl
  · have hasked : .readRecords ∉ asked.failing := hread
    have hrecords := resultOf?_records store search page.refs
      (SearchPlan.ofText search).fragments hasked
    rw [hmined, recordOf?_of_rows hrows] at hrecords
    rw [hmined]
    exact hrecords

end Collection

namespace Solo

variable {solo : Solo}

/-- Where no failure is met and what is cached goes by the rows, the completions that are returned
are those of the rows. -/
theorem result?_suggest (h : solo.collection.Backs solo.store.config solo.store.cache)
    (hquery : .query ∉ solo.collection.failing)
    (hread : .readRecords ∉ solo.collection.failing) :
    solo.result? .suggest = some (.ok (.completions
      (solo.collection.completionsOf solo.store.config solo.store.grid.search))) := by
  simp only [result?, Store.begin, Store.suggest]
  split
  · rename_i texts hcached
    obtain ⟨-, hentry⟩ := Store.cached?_eq_some hcached
    rw [← h _ _ hentry]
    rfl
  · split
    · rename_i hnothing
      have hnone : solo.collection.completionsOf solo.store.config solo.store.grid.search = [] := by
        rcases Bool.or_eq_true_iff.mp hnothing with hwords | hlimit
        · exact Collection.completionsOf_of_no_fragments (List.isEmpty_iff.mp hwords)
        · refine Collection.completionsOf_of_mined ?_
          rw [Collection.mined, of_decide_eq_true hlimit, List.take_zero]
      rw [hnone]
      rfl
    · rename_i hwords
      simp only [Bool.or_eq_true, decide_eq_true_eq, not_or] at hwords
      exact Collection.resultOf?_page solo.store _ hquery hread hwords.2

/-! ## Runs -/

/-- A move that puts a row into the collection past the store. -/
def Move.inserts : Move → Bool
  | .insert _ _ => true
  | _ => false

/-- What is cached goes by the rows, and what the operation under way waits for does so too. -/
structure Backed (config : Config) (solo : Solo) : Prop where
  /-- The configuration is the given one. -/
  config_eq : solo.store.config = config
  /-- What is cached. -/
  cache : solo.collection.Backs config solo.store.cache
  /-- What is waited for. -/
  waiting : ∀ pending, solo.waiting = some pending → pending.GoesBy solo.collection config

theorem backed_fresh (config : Config) (draw : Nat → Uuid) (collection : Collection) :
    (fresh config draw collection).Backed config where
  config_eq := rfl
  cache _ _ h := absurd h List.not_mem_nil
  waiting _ h := by cases h

namespace Backed

/-- Whether points of the collection fail does not concern the cache. -/
theorem of_rows (h : solo.Backed config) {collection : Collection}
    (hrows : collection.rows = solo.collection.rows) :
    Backed config { solo with collection } where
  config_eq := h.config_eq
  cache := h.cache.of_rows hrows
  waiting pending hpending := (h.waiting pending hpending).of_rows hrows

theorem answer (h : solo.Backed config) : (solo.move .answer).Backed config := by
  cases hwaiting : solo.waiting with
  | none =>
    rw [move_answer_of_none hwaiting]
    exact h
  | some pending =>
    obtain ⟨reply, after, result, hreply, hresume⟩ := solo.exists_answer pending
    obtain ⟨hconfig, hcache⟩ := Store.cache_resume hresume
    have hpending := h.waiting pending hwaiting
    have hbacks := h.cache
    rw [← h.config_eq] at hpending hbacks
    rw [move_answer hwaiting hreply hresume]
    refine ⟨hconfig.trans h.config_eq, ?_, fun next hnext => ?_⟩
    · rw [hcache, ← h.config_eq]
      exact hbacks.reply? hpending hreply
    · rcases Store.search?_resume hresume (List.mem_of_head? hnext) with hnone | hmining
      · exact Pending.goesBy_of_search? hnone
      · obtain ⟨search, request, fragments, page, rfl, rfl, rfl⟩ := hmining
        obtain ⟨-, rfl, rfl⟩ := hpending
        rcases Collection.rows_reply? hreply with hrows | hforgets
        · have hanswer : solo.collection.answer (solo.store.config.miningRequest search) =
              .ok page := Reply.page.inj (Option.some.inj (Prod.mk.inj hreply).1)
          rw [← h.config_eq]
          exact ⟨(Collection.refs_of_answer hanswer).trans
            (Collection.mined_of_rows hrows _ search).symm, rfl⟩
        · cases hforgets

/-- Every move but one past the store keeps what is cached in line with the rows. -/
theorem move (h : solo.Backed config) {move : Move} (hrows : move.inserts = false) :
    (solo.move move).Backed config := by
  cases move with
  | fail point =>
    refine h.of_rows ?_
    unfold Collection.fail
    split <;> rfl
  | recover point => exact h.of_rows rfl
  | answer => exact h.answer
  | command command =>
    simp only [Solo.move]
    split
    · exact h
    · have hsame := solo.store.sameCache_obey command
      refine ⟨hsame.config.trans h.config_eq, ?_, h.waiting⟩
      rw [hsame.cache]
      exact h.cache
  | start operation =>
    simp only [Solo.move]
    split
    · exact h
    · have hsame := Store.sameCache_begin (solo.store.begins operation)
      refine ⟨hsame.config.trans h.config_eq, ?_, fun pending hpending => ?_⟩
      · show solo.collection.Backs config (solo.store.begin operation).1.cache
        rw [hsame.cache]
        exact h.cache
      · rw [← h.config_eq]
        exact Store.goesBy_begin solo.collection (List.mem_of_head? hpending)
  | insert ref record => cases hrows

end Backed

theorem backed_run (config : Config) (draw : Nat → Uuid) (collection : Collection)
    {moves : List Move} (hrows : ∀ move ∈ moves, move.inserts = false) :
    ((fresh config draw collection).run moves).Backed config := by
  induction moves using List.reverseRecOn with
  | nil => exact backed_fresh config draw collection
  | append_singleton moves last ih =>
    rw [run_concat]
    exact (ih fun move hm => hrows move (List.mem_append_left _ hm)).move
      (hrows last (List.mem_append_right _ List.mem_cons_self))

/-- With a cache that goes by the rows, the completions are those that there are without a cache. -/
theorem Backed.result?_suggest (h : solo.Backed config) (hquery : .query ∉ solo.collection.failing)
    (hread : .readRecords ∉ solo.collection.failing) :
    solo.result? .suggest = some (.ok (.completions
        (solo.collection.completionsOf config solo.store.grid.search))) ∧
      Solo.result? { solo with store := solo.store.forget } .suggest = solo.result? .suggest := by
  have hbacks := h.cache
  rw [← h.config_eq] at hbacks ⊢
  have hcached := Solo.result?_suggest hbacks hquery hread
  have hnothing : solo.collection.Backs solo.store.config solo.store.forget.cache :=
    fun _ _ hm => absurd hm List.not_mem_nil
  have huncached : Solo.result? { solo with store := solo.store.forget } .suggest = _ :=
    Solo.result?_suggest hnothing hquery hread
  exact ⟨hcached, huncached.trans hcached.symm⟩

/-- A store that works alone with its collection, and through which alone rows change, returns the
completions that the rows give at the time, as it does without a cache. What is cached goes by the
rows at any time, whatever was edited, deleted or failed before, and searches that share an entry
have the same completions. -/
theorem cache_transparent (config : Config) (draw : Nat → Uuid) (collection : Collection)
    (moves : List Move) (hrows : ∀ move ∈ moves, move.inserts = false) :
    let solo := (fresh config draw collection).run moves
    let uncached : Solo := { solo with store := solo.store.forget }
    (.query ∉ solo.collection.failing → .readRecords ∉ solo.collection.failing →
      solo.result? .suggest = some (.ok (.completions
          (solo.collection.completionsOf config solo.store.grid.search))) ∧
        uncached.result? .suggest = solo.result? .suggest) ∧
      (∀ search texts, (Text.trim search, texts) ∈ solo.store.cache →
        texts = solo.collection.completionsOf config search) ∧
      ∀ search other, Text.trim search = Text.trim other →
        solo.collection.completionsOf config search =
          solo.collection.completionsOf config other := by
  have hbacked := backed_run config draw collection hrows
  exact ⟨hbacked.result?_suggest, hbacked.cache, fun _ _ hkey =>
    Collection.completionsOf_eq_of_trim_eq hkey config⟩

/-- The completions of a search are cached, then an edit changes every record. The search is made
again, first in vain as metadata cannot be read, and is found in the cache the next time. -/
theorem cache_transparent_edited :
    let pier : Artifact := ⟨"shots", "a.jpg", .image⟩
    let dock : Artifact := ⟨"shots", "b.jpg", .image⟩
    let rows := [(pier, { Metadata.empty with notes := some "coral reef" }), (dock, .empty)]
    let searched : List Move := [.command (.typeSearch "reef"), .start .suggest, .answer, .answer]
    let edited : List Move := [.start (.openQuery [] 0), .answer, .answer,
      .command (.mark none true), .start (.edit { Metadata.empty with notes := some "wide reef" }),
      .answer, .answer, .answer]
    let failed : List Move := [.fail .readRecords, .start .suggest, .answer, .answer,
      .recover .readRecords]
    let moves := searched ++ edited ++ failed ++ searched ++ [.command (.typeSearch " reef")]
    let solo := (fresh .standard .supply (.ofRows rows)).run moves
    ((fresh .standard .supply (.ofRows rows)).run searched).store.cached? " reef" =
        some ["coral reef"] ∧
      solo.store.cached? " reef" = some ["wide reef"] ∧ solo.store.grid.search = " reef" ∧
      solo.result? .suggest = some (.ok (.completions ["wide reef"])) ∧
      Solo.result? { solo with store := solo.store.forget } .suggest =
        some (.ok (.completions ["wide reef"])) := by
  intro pier dock rows searched edited failed moves solo
  have htexts : solo.collection.completionsOf .standard solo.store.grid.search = ["wide reef"] := by
    decide +kernel
  have hearly : ((fresh .standard .supply (.ofRows rows)).run searched).store.cached? " reef" =
      some ["coral reef"] := by
    decide +kernel
  have hlate : solo.store.cached? " reef" = some ["wide reef"] ∧
      solo.store.grid.search = " reef" := by
    decide +kernel
  have hresult := (cache_transparent .standard .supply (.ofRows rows) moves
    (by decide +kernel)).1 (by decide +kernel) (by decide +kernel)
  have hsolo : (fresh .standard .supply (.ofRows rows)).run moves = solo := rfl
  rw [hsolo] at hresult
  clear_value solo
  rw [htexts] at hresult
  exact ⟨hearly, hlate.1, hlate.2, hresult.1, hresult.2.trans hresult.1⟩

end Solo

end MediaGrid
