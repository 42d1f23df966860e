import MediaGrid.Proofs.Store.Suggestions

/-!
# Where cached completions come from

After an edit or a deletion the cache is empty, so what is found in it later was put there since.
The computation that did so may have been started since; then all it read was read since. Or it was
under way already when the cache was emptied, and what it had read by then may be out of date. Such
a computation is followed here from turn to turn, through the results it waits for to their
metadata. The collection is no part of it: answers are arbitrary, as in every run of a service.
-/

namespace MediaGrid

namespace Service

/-! ## Where an operation stood before a turn -/

/-- What stands behind the newcomers of a turn stood somewhere before it. -/
theorem exists_standing_of_le {service : Service} {turn : Turn} {next : Nat}
    (h : (service.newcomers turn).length ≤ next) :
    ∃ position, service.standing turn position = some next := by
  unfold standing
  cases service.answered? turn with
  | none => exact ⟨next - (service.newcomers turn).length, by simp only [Option.some.injEq]; omega⟩
  | some answered =>
    by_cases hbefore : next - (service.newcomers turn).length < answered
    · refine ⟨next - (service.newcomers turn).length, ?_⟩
      simp only
      rw [if_neg (by omega), if_pos hbefore, Option.some.injEq]
      omega
    · refine ⟨next - (service.newcomers turn).length + 1, ?_⟩
      simp only
      rw [if_neg (by omega), if_neg (by omega), Option.some.injEq]
      omega

/-- What waits after a turn is a newcomer, or waited for the same before. -/
theorem waits_turn {service : Service} {turn : Turn} {next : Nat} {pending : Pending}
    (h : (service.turn turn).waiting[next]? = some pending) :
    (next = 0 ∧ service.newcomers turn = [pending]) ∨
      ∃ position, service.standing turn position = some next ∧
        service.waiting[position]? = some pending := by
  by_cases hnew : next < (service.newcomers turn).length
  · rw [waiting_turn, List.getElem?_append_left hnew] at h
    have hsingle := newcomers_eq_of_mem (List.mem_of_getElem? h)
    rw [hsingle, List.length_singleton] at hnew
    exact Or.inl ⟨by omega, hsingle⟩
  · obtain ⟨position, hposition⟩ := exists_standing_of_le (Nat.not_lt.mp hnew)
    exact Or.inr ⟨position, hposition, (getElem?_standing hposition).symm.trans h⟩

/-! ## Computations that are under way -/

/-- The computation of completions that waits at a position waits at another after the turns, for
what it waited for or for the metadata of the results that came. -/
inductive Follows (service : Service) : List Turn → Nat → Nat → Prop where
  /-- Before any turn. -/
  | refl (position : Nat) : Follows service [] position position
  /-- It does not go on in the last turn. -/
  | stays {turns : List Turn} {position middle next : Nat} (turn : Turn)
      (hturns : Follows service turns position middle)
      (hstands : (service.run turns).standing turn middle = some next) :
      Follows service (turns ++ [turn]) position next
  /-- The last turn brings it results. -/
  | found {turns : List Turn} {position middle : Nat} (search : String) (request : PageRequest)
      (fragments : List String) (page : Page) (hturns : Follows service turns position middle)
      (hwaits : (service.run turns).waiting[middle]? =
        some (.suggestPage search request fragments))
      (hsome : ¬page.refs.isEmpty) :
      Follows service (turns ++ [.answer middle (.page (.ok page))]) position 0

/-- The computation that waits at a position ends in one of the turns with the completions of a
search. -/
def Computes (service : Service) (turns : List Turn) (position : Nat) (search : String)
    (texts : List String) : Prop :=
  ∃ early late middle reply pending, turns = early ++ .answer middle reply :: late ∧
    service.Follows early position middle ∧
    (service.run early).waiting[middle]? = some pending ∧
    pending.computed? (service.run early).store.config.snippetLength reply = some (search, texts)

/-- One of the turns starts a computation that ends in a later one with the completions of a
search. -/
def ComputesAnew (service : Service) (turns : List Turn) (search : String)
    (texts : List String) : Prop :=
  ∃ early late pending, turns = early ++ .start .suggest :: late ∧
    (service.run early).newcomers (.start .suggest) = [pending] ∧
    ((service.run early).turn (.start .suggest)).Computes late 0 search texts

/-- The computation that waits at a position was under way before the turns or was started in one
of them. -/
def UnderWay (service : Service) (turns : List Turn) (next : Nat) : Prop :=
  (∃ position, service.Follows turns position next) ∨
    ∃ early late pending, turns = early ++ .start .suggest :: late ∧
      (service.run early).newcomers (.start .suggest) = [pending] ∧
      ((service.run early).turn (.start .suggest)).Follows late 0 next

variable {service : Service} {turns : List Turn} {search : String} {texts : List String}

/-- The run after a start is a run. -/
theorem run_start (service : Service) (early late : List Turn) (operation : Operation) :
    service.run (early ++ .start operation :: late) =
      ((service.run early).turn (.start operation)).run late := by
  rw [run_append]
  rfl

/-- A computation that is followed was one for the same search from the beginning. -/
theorem Follows.search? {position next : Nat} {pending : Pending}
    (h : service.Follows turns position next)
    (hwaits : (service.run turns).waiting[next]? = some pending)
    (hsearch : pending.search? = some search) :
    ∃ first, service.waiting[position]? = some first ∧ first.search? = some search := by
  induction h generalizing pending with
  | refl position => exact ⟨pending, hwaits, hsearch⟩
  | stays turn hturns hstands ih =>
    rw [run_concat, getElem?_standing hstands] at hwaits
    exact ih hwaits hsearch
  | @found turns position middle own request fragments page hturns hmiddle hsome ih =>
    have hresumed : (service.run turns).resumed? middle (.page (.ok page)) =
        some ((service.run turns).store, .waiting (.suggestRecords own page.refs fragments)) := by
      rw [resumed?, hmiddle]
      exact if_neg hsome
    rw [run_concat, turn_of_resumed hresumed] at hwaits
    cases hwaits
    exact ih hmiddle hsearch

/-- A computation goes on in further turns as in the turns before. -/
theorem Computes.append {position : Nat} (h : service.Computes turns position search texts)
    (more : List Turn) : service.Computes (turns ++ more) position search texts := by
  obtain ⟨early, late, middle, reply, pending, rfl, hrest⟩ := h
  exact ⟨early, late ++ more, middle, reply, pending, List.append_assoc _ _ _, hrest⟩

theorem ComputesAnew.append (h : service.ComputesAnew turns search texts) (more : List Turn) :
    service.ComputesAnew (turns ++ more) search texts := by
  obtain ⟨early, late, pending, rfl, hnew, hrest⟩ := h
  exact ⟨early, late ++ more, pending, List.append_assoc _ _ _, hnew, hrest.append more⟩

namespace UnderWay

variable {next middle : Nat}

/-- A computation that does not go on in a turn is still under way. -/
theorem stays (h : service.UnderWay turns middle) (turn : Turn)
    (hstands : (service.run turns).standing turn middle = some next) :
    service.UnderWay (turns ++ [turn]) next := by
  rcases h with ⟨position, hfollows⟩ | ⟨early, late, pending, rfl, hnew, hfollows⟩
  · exact Or.inl ⟨position, hfollows.stays turn hstands⟩
  · rw [run_start] at hstands
    exact Or.inr ⟨early, late ++ [turn], pending, List.append_assoc _ _ _, hnew,
      hfollows.stays turn hstands⟩

/-- A computation that is brought results is still under way. -/
theorem found (h : service.UnderWay turns middle) {own : String} {request : PageRequest}
    {fragments : List String} {page : Page}
    (hwaits : (service.run turns).waiting[middle]? = some (.suggestPage own request fragments))
    (hsome : ¬page.refs.isEmpty) :
    service.UnderWay (turns ++ [.answer middle (.page (.ok page))]) 0 := by
  rcases h with ⟨position, hfollows⟩ | ⟨early, late, pending, rfl, hnew, hfollows⟩
  · exact Or.inl ⟨position, hfollows.found own request fragments page hwaits hsome⟩
  · rw [run_start] at hwaits
    exact Or.inr ⟨early, _, pending, List.append_assoc _ _ _, hnew,
      hfollows.found own request fragments page hwaits hsome⟩

/-- A computation that an answer ends was under way before the turns or was started since. -/
theorem computes (h : service.UnderWay turns middle) {pending : Pending} {reply : Reply}
    (hwaits : (service.run turns).waiting[middle]? = some pending)
    (hcomputed : pending.computed? (service.run turns).store.config.snippetLength reply =
      some (search, texts)) :
    service.ComputesAnew (turns ++ [.answer middle reply]) search texts ∨
      ∃ position, service.Computes (turns ++ [.answer middle reply]) position search texts := by
  rcases h with ⟨position, hfollows⟩ | ⟨early, late, started, rfl, hnew, hfollows⟩
  · exact Or.inr ⟨position, turns, [], middle, reply, pending, rfl, hfollows, hwaits, hcomputed⟩
  · rw [run_start] at hwaits hcomputed
    exact Or.inl ⟨early, late ++ [.answer middle reply], started, List.append_assoc _ _ _, hnew,
      late, [], middle, reply, pending, rfl, hfollows, hwaits, hcomputed⟩

end UnderWay

/-- A computation of completions that starts to wait in a turn was started there, or waited for
results that came. -/
theorem computing_newcomer {service : Service} {turn : Turn} {pending : Pending}
    (hmem : pending ∈ service.newcomers turn) (hsearch : pending.search? = some search) :
    turn = .start .suggest ∨ ∃ middle own request fragments page,
      turn = .answer middle (.page (.ok page)) ∧
      service.waiting[middle]? = some (.suggestPage own request fragments) ∧
      ¬page.refs.isEmpty := by
  cases turn with
  | command command => cases hmem
  | start operation =>
    rcases Store.search?_begin (service.store.begins operation) hmem with hnone | ⟨rfl, -, -⟩
    · cases hnone.symm.trans hsearch
    · exact Or.inl rfl
  | answer middle reply =>
    cases hresumed : service.resumed? middle reply with
    | none =>
      simp only [newcomers, hresumed] at hmem
      cases hmem
    | some result =>
      obtain ⟨waiting, hwaiting, hresume⟩ := Option.bind_eq_some_iff.mp hresumed
      simp only [newcomers, hresumed] at hmem
      rcases Store.search?_resume hresume hmem with hnone | hmining
      · cases hnone.symm.trans hsearch
      · obtain ⟨own, request, fragments, page, rfl, rfl, rfl⟩ := hmining
        refine Or.inr ⟨middle, own, request, fragments, page, rfl, hwaiting, fun hempty => ?_⟩
        rw [Store.resume, if_pos hempty] at hresume
        cases hresume
        cases hmem

/-- Every computation that waits after the turns was under way before or was started in one of
them. -/
theorem underWay_of_waits (service : Service) (turns : List Turn) {next : Nat}
    {pending : Pending} (hwaits : (service.run turns).waiting[next]? = some pending)
    (hsearch : pending.search? = some search) : service.UnderWay turns next := by
  induction turns using List.reverseRecOn generalizing next pending search with
  | nil => exact Or.inl ⟨next, .refl next⟩
  | append_singleton turns turn ih =>
    rw [run_concat] at hwaits
    rcases waits_turn hwaits with ⟨rfl, hnew⟩ | ⟨middle, hstands, hmiddle⟩
    · have hmem : pending ∈ (service.run turns).newcomers turn := hnew ▸ List.mem_singleton_self _
      rcases computing_newcomer hmem hsearch with rfl | hfound
      · exact Or.inr ⟨turns, [], pending, rfl, hnew, .refl 0⟩
      · obtain ⟨middle, own, request, fragments, page, rfl, hwaiting, hsome⟩ := hfound
        exact (ih hwaiting rfl).found hwaiting hsome
    · exact (ih hmiddle hsearch).stays turn hstands

/-! ## What is cached -/

/-- What an answer ends the computation of is a computation for that search. -/
theorem search?_of_computed? {pending : Pending} {length : Nat} {reply : Reply}
    (h : pending.computed? length reply = some (search, texts)) :
    pending.search? = some search := by
  unfold Pending.computed? at h
  split at h
  · split at h
    · cases h
      rfl
    · cases h
  · cases h
    rfl
  · cases h

/-- What is cached after a turn was so before, unless the turn ended the computation of it. -/
theorem mem_cache_turn {service : Service} {turn : Turn} {entry : String × List String}
    (h : entry ∈ (service.turn turn).store.cache) :
    entry ∈ service.store.cache ∨ ∃ position reply pending search texts,
      turn = .answer position reply ∧ service.waiting[position]? = some pending ∧
      pending.computed? service.store.config.snippetLength reply = some (search, texts) ∧
      entry = (Text.trim search, texts) := by
  cases turn with
  | command command => exact Or.inl ((service.store.sameCache_obey command).cache ▸ h)
  | start operation =>
    exact Or.inl ((Store.sameCache_begin (service.store.begins operation)).cache ▸ h)
  | answer position reply =>
    cases hresumed : service.resumed? position reply with
    | none =>
      rw [turn_of_not_resumed hresumed] at h
      exact Or.inl h
    | some result =>
      obtain ⟨pending, hpending, hresume⟩ := Option.bind_eq_some_iff.mp hresumed
      rw [turn_of_resumed hresumed, (Store.cache_resume hresume).2] at h
      refine (Store.mem_cacheAfter h).imp_right ?_
      rintro ⟨search, texts, hcomputed, hentry⟩
      exact ⟨position, reply, pending, search, texts, rfl, hpending, hcomputed, hentry⟩

/-- With nothing cached before the turns, what is cached after them was put there by a computation
that was under way before or was started in one of them. -/
theorem cached_from (hempty : service.store.cache = []) (turns : List Turn) {key : String}
    (hcached : (key, texts) ∈ (service.run turns).store.cache) :
    ∃ search, Text.trim search = key ∧ (service.ComputesAnew turns search texts ∨
      ∃ position, service.Computes turns position search texts) := by
  induction turns using List.reverseRecOn with
  | nil =>
    rw [show service.run [] = service from rfl, hempty] at hcached
    cases hcached
  | append_singleton turns turn ih =>
    rw [run_concat] at hcached
    rcases mem_cache_turn hcached with hold | hnew
    · obtain ⟨search, hkey, horigin⟩ := ih hold
      refine ⟨search, hkey, horigin.imp (fun h => h.append [turn]) ?_⟩
      exact Exists.imp fun position h => h.append [turn]
    · obtain ⟨middle, reply, pending, search, computed, rfl, hwaits, hcomputed, hentry⟩ := hnew
      obtain ⟨rfl, rfl⟩ := Prod.mk.inj hentry
      exact ⟨search, rfl, (underWay_of_waits service turns hwaits
        (search?_of_computed? hcomputed)).computes hwaits hcomputed⟩

/-- A computation that ends was one for that search from the beginning. -/
theorem Computes.search? {position : Nat} (h : service.Computes turns position search texts) :
    ∃ pending, service.waiting[position]? = some pending ∧ pending.search? = some search := by
  obtain ⟨early, late, middle, reply, pending, rfl, hfollows, hwaits, hcomputed⟩ := h
  exact hfollows.search? hwaits (search?_of_computed? hcomputed)

end Service

/-! ## Completions after an edit or a deletion -/

/-- An answer that tells of a change is of the kind that is waited for. -/
theorem Pending.accepts_of_forgets {pending : Pending} {reply : Reply}
    (h : pending.forgets reply) : pending.Accepts reply := by
  unfold Pending.forgets at h
  split at h
  · exact .delete _ _
  · exact .edit _ _ _
  · cases h

namespace Store

variable {store : Store} {texts : List String}

/-- Cached completions are returned at once. -/
theorem suggest_of_cached (h : store.cached? store.grid.search = some texts) :
    (store.begin .suggest).2 = .done (.ok (.completions texts)) := by
  simp only [begin, suggest, h]
  rfl

/-- Where nothing is cached, a search without words has no completions, and any other asks for
results to mine them from. -/
theorem suggest_of_not_cached (h : store.cached? store.grid.search = none) :
    ((SearchPlan.ofText store.grid.search).fragments = [] ∨ store.config.suggestionLimit = 0) ∧
        (store.begin .suggest).2 = .done (.ok (.completions [])) ∨
      (store.begin .suggest).2 = .waiting (.suggestPage store.grid.search
        (store.config.miningRequest store.grid.search)
        (SearchPlan.ofText store.grid.search).fragments) := by
  simp only [begin, suggest, h]
  split
  · rename_i hnothing
    rw [Bool.or_eq_true_iff, List.isEmpty_iff, decide_eq_true_eq] at hnothing
    exact Or.inl ⟨hnothing, rfl⟩
  · exact Or.inr rfl

end Store

namespace Service

/-- Whenever completions are asked for after an edit or a deletion succeeded, they are asked of the
backend anew, or there are none as the search has no words or nothing is looked at, or they were put
into the cache by a computation that was started since, or by one that was under way already when
the answer to the edit or the deletion came. Such a computation may have read what was changed
then. -/
theorem completions_since (config : Config) (draw : Nat → Uuid) (early late : List Turn)
    (position : Nat) (reply : Reply) (pending : Pending)
    (hpending : ((fresh config draw).run early).waiting[position]? = some pending)
    (hforgets : pending.forgets reply) :
    let after := ((fresh config draw).run early).turn (.answer position reply)
    let store := (after.run late).store
    let plan := SearchPlan.ofText store.grid.search
    (store.begin .suggest).2 = .waiting (.suggestPage store.grid.search
        (store.config.miningRequest store.grid.search) plan.fragments) ∨
      ∃ texts, (store.begin .suggest).2 = .done (.ok (.completions texts)) ∧
        (texts = [] ∧ (plan.fragments = [] ∨ store.config.suggestionLimit = 0) ∨
          ∃ search, Text.trim search = Text.trim store.grid.search ∧
            (after.ComputesAnew late search texts ∨
              ∃ place straddling, after.waiting[place]? = some straddling ∧
                straddling.search? = some search ∧ after.Computes late place search texts)) := by
  intro after store plan
  have hempty : after.store.cache = [] := by
    obtain ⟨result, hresume⟩ :=
      ((fresh config draw).run early).store.exists_resume (Pending.accepts_of_forgets hforgets)
    have hresumed : ((fresh config draw).run early).resumed? position reply = some result := by
      rw [resumed?, hpending]
      exact hresume
    rw [show after = _ from turn_of_resumed hresumed, (Store.cache_resume hresume).2,
      Store.cacheAfter_of_forgets hforgets]
  cases hcached : store.cached? store.grid.search with
  | none =>
    rcases Store.suggest_of_not_cached hcached with ⟨hnothing, hdone⟩ | hwaiting
    · exact Or.inr ⟨[], hdone, Or.inl ⟨rfl, hnothing⟩⟩
    · exact Or.inl hwaiting
  | some texts =>
    obtain ⟨search, hkey, horigin⟩ := cached_from hempty late (Store.cached?_eq_some hcached).2
    refine Or.inr ⟨texts, Store.suggest_of_cached hcached, Or.inr ⟨search, hkey, ?_⟩⟩
    refine horigin.imp_right ?_
    rintro ⟨place, hcomputes⟩
    obtain ⟨straddling, hwaits, hsearch⟩ := hcomputes.search?
    exact ⟨place, straddling, hwaits, hsearch, hcomputes⟩

/-- An edit changes every record and is over when completions are computed, then they are found in
the cache. -/
theorem completions_since_edit :
    let pier : Artifact := ⟨"shots", "a.jpg", .image⟩
    let update : Metadata := { Metadata.empty with notes := some "wide reef" }
    let edited : Collection := .ofRows [(pier, update)]
    let early : List Turn := [.command (.typeSearch "reef"), .command (.add [pier]),
      .command (.mark none true), .start (.edit update)]
    let late : List Turn := [.start .suggest,
      .answer 0 (.page (edited.answer (Config.standard.miningRequest "reef"))),
      .answer 0 (.records (edited.records [pier]))]
    let before := (fresh .standard .supply).run early
    let after := before.turn (.answer 0 (.settled (.ok ())))
    let store := (after.run late).store
    before.waiting[0]? = some (.edit [(pier.id, pier)] update) ∧
      (Pending.edit [(pier.id, pier)] update).forgets (.settled (.ok ())) ∧
      after.waiting = [] ∧ store.cached? "reef" = some ["wide reef"] ∧
      ∃ search, Text.trim search = "reef" ∧ after.ComputesAnew late search ["wide reef"] := by
  intro pier update edited early late before after store
  have hwaiting : before.waiting[0]? = some (.edit [(pier.id, pier)] update) := by decide +kernel
  have hnone : after.waiting = [] := by decide +kernel
  have hcached : store.cached? "reef" = some ["wide reef"] := by decide +kernel
  have hsearch : store.grid.search = "reef" := by decide +kernel
  have htrim : Text.trim "reef" = "reef" := by decide +kernel
  have hdone : (store.begin .suggest).2 = .done (.ok (.completions ["wide reef"])) :=
    Store.suggest_of_cached (hsearch.symm ▸ hcached)
  have hsince := completions_since .standard .supply early late 0 (.settled (.ok ())) _ hwaiting rfl
  have hafter : ((fresh .standard .supply).run early).turn (.answer 0 (.settled (.ok ()))) =
      after := rfl
  have hstore : (after.run late).store = store := rfl
  dsimp only at hsince
  rw [hafter, hstore] at hsince
  clear_value store after
  refine ⟨hwaiting, rfl, hnone, hcached, ?_⟩
  rcases hsince with hasked | ⟨texts, hreturned, hnothing | ⟨search, hkey, horigin⟩⟩
  · cases hdone.symm.trans hasked
  · cases hdone.symm.trans hreturned
    cases hnothing.1
  · cases hdone.symm.trans hreturned
    refine ⟨search, hkey.trans ((congrArg Text.trim hsearch).trans htrim),
      horigin.resolve_right ?_⟩
    rintro ⟨place, straddling, hwaits, -⟩
    rw [hnone] at hwaits
    cases hwaits

/-- A search has found one artifact when an edit gives another the word that is searched for. The
metadata of the first comes when the edit is over, and the completions that were mined from it
alone are returned from then on, though the edit emptied the cache. -/
theorem completions_outlive_edit :
    let pier : Artifact := ⟨"shots", "a.jpg", .image⟩
    let dock : Artifact := ⟨"shots", "b.jpg", .image⟩
    let update : Metadata := { Metadata.empty with notes := some "reef wall" }
    let stocked : Collection :=
      .ofRows [(pier, { Metadata.empty with notes := some "coral reef" }), (dock, .empty)]
    let edited := (stocked.changeRecords update [dock]).2
    let early : List Turn := [.command (.typeSearch "reef"), .command (.add [dock]),
      .command (.mark none true), .start .suggest,
      .answer 0 (.page (stocked.answer (Config.standard.miningRequest "reef"))),
      .start (.edit update)]
    let before := (fresh .standard .supply).run early
    let after := before.turn (.answer 0 (.settled (.ok ())))
    let store := (after.run [.answer 0 (.records (edited.records [pier]))]).store
    before.waiting.map Pending.calls = [[.changeRecords update [dock]], [.readRecords [pier]]] ∧
      after.waiting.map Pending.calls = [[.readRecords [pier]]] ∧
      after.store.grid.requests.metadataEdit = .succeeded ∧ after.store.cache = [] ∧
      store.grid.search = "reef" ∧
      (store.begin .suggest).2 = .done (.ok (.completions ["coral reef"])) ∧
      edited.completionsOf .standard "reef" = ["coral reef", "reef wall"] := by
  intro pier dock update stocked edited early before after store
  have hcached : store.cached? "reef" = some ["coral reef"] := by decide +kernel
  have hsearch : store.grid.search = "reef" := by decide +kernel
  have hreturned : (store.begin .suggest).2 = .done (.ok (.completions ["coral reef"])) := by
    refine Store.suggest_of_cached ?_
    rw [hsearch]
    exact hcached
  exact ⟨by decide +kernel, by decide +kernel, by decide +kernel, by decide +kernel, hsearch,
    hreturned, by decide +kernel⟩

end Service

end MediaGrid
