import MediaGrid.Proofs.Store.Requests
import MediaGrid.Proofs.Store.Waiting

/-!
# One operation of a kind at a time

An operation on the selection is let through only while the request of its kind does not run and
something is selected, and then the request runs. It goes on doing so while the operation waits,
also while an edit waits for the query that fills the view again, and it ends where the operation
ends. Nothing else moves that request: clearing the view and paging settle the query alone, and
the other kinds have requests of their own. So each step takes the request of a kind, leaves it or
frees it, and a run that starts with the request free never lets two operations of a kind overlap,
nor the calls that they make.
-/

namespace MediaGrid

/-- The request on the selection that an operation starts. -/
def Operation.request? : Operation → Option Request
  | .archive => some .download
  | .delete => some .delete
  | .edit _ => some .metadataEdit
  | _ => none

/-- The request on the selection that a call is made for. -/
def Call.request? : Call → Option Request
  | .archive _ => some .download
  | .delete _ => some .delete
  | .changeRecords _ _ => some .metadataEdit
  | _ => none

/-- The requests that operations carry out while they wait. -/
def carriedBy (waiting : List Pending) : List Request := waiting.filterMap Pending.request?

/-- An operation that waits for a call made for a request carries that request out, and waits for
one such call only. -/
theorem Pending.calls_for (pending : Pending) :
    pending.calls.filterMap Call.request? = [] ∨
      pending.calls.filterMap Call.request? = pending.request?.toList := by
  cases pending with
  | archive items => exact Or.inr rfl
  | delete targets => exact Or.inr rfl
  | edit targets update => exact Or.inr rfl
  | contents load =>
    refine Or.inl (List.filterMap_eq_nil_iff.mpr fun call hm => ?_)
    obtain ⟨target, -, rfl⟩ := List.mem_map.mp hm
    rfl
  | _ => exact Or.inl rfl

namespace Store

/-- What an operation that carries out a request, or none, did to the request of a kind when it ran
as far as it gets. -/
inductive Locks (kind : Request) (before : Store) (carried : Option Request)
    (result : Store × Progress) : Prop where
  /-- It left the request alone, and carries it out if it did so before. -/
  | leaves
    (hstate : result.1.grid.requests.get kind = before.grid.requests.get kind)
    (hnext : (carriedBy result.2.pendings).count kind = carried.toList.count kind)
  /-- It carried the request out and ended, and the request does not run any more. -/
  | frees (hcarried : carried = some kind) (hended : result.2.pendings = [])
    (hstate : result.1.grid.requests.get kind ≠ .loading)

variable {kind : Request} {before store : Store} {carried : Option Request}
  {result : Store × Progress}

/-- What leaves the request alone may come before. -/
theorem Locks.after_same (h : store.Locks kind carried result)
    (hsame : store.grid.requests.get kind = before.grid.requests.get kind) :
    before.Locks kind carried result := by
  cases h with
  | leaves hstate hnext => exact .leaves (hstate.trans hsame) hnext
  | frees hcarried hended hstate => exact .frees hcarried hended hstate

/-- An operation that carried out no request and ends leaves the requests alone. -/
theorem locks_done (h : store.grid.requests = before.grid.requests)
    (outcome : Except Failure Outcome) : before.Locks kind none (store, .done outcome) :=
  .leaves (congrArg (·.get kind) h) rfl

/-- An operation that goes on waiting and carries out what it did before. -/
theorem locks_waiting (h : store.grid.requests.get kind = before.grid.requests.get kind)
    (pending : Pending) : before.Locks kind pending.request? (store, .waiting pending) := by
  refine .leaves h ?_
  rw [carriedBy, Progress.pendings, List.filterMap_cons]
  cases pending.request? <;> rfl

/-- An operation that ends its request frees it, and leaves those of other kinds alone. -/
theorem locks_ended (h : store.grid.requests = before.grid.requests) (other : Request)
    {state : RequestStatus} (hstate : state ≠ .loading) (outcome : Except Failure Outcome) :
    before.Locks kind (some other) (store.moveRequest other state, .done outcome) := by
  have hmoved : (store.moveRequest other state).grid.requests.get kind =
      if kind = other then state else before.grid.requests.get kind := by
    rw [requests_moveRequest, Requests.get_set, h]
  by_cases hkind : kind = other
  · exact .frees (congrArg some hkind.symm) rfl (by rwa [hmoved, if_pos hkind])
  · refine .leaves (hmoved.trans (if_neg hkind)) ?_
    exact (List.count_singleton.trans (if_neg fun he => hkind (eq_of_beq he).symm)).symm

/-- An edit that ends frees its request. -/
theorem locks_finishEdit (h : store.grid.requests = before.grid.requests) (ids : List ItemId)
    (update : Metadata) : before.Locks kind (some .metadataEdit) (store.finishEdit ids update) :=
  locks_ended ((store.requests_amend ids update).trans h) .metadataEdit (by simp) _

/-- What comes after a page ends the edit that the page was asked for, if it was. -/
theorem locks_afterPage (h : store.grid.requests.get kind = before.grid.requests.get kind)
    (run : PageRun) (result : Except Failure (List ItemId)) :
    before.Locks kind run.purpose.request? (store.afterPage run result) := by
  unfold afterPage
  cases run.purpose with
  | report => exact (locks_done rfl _).after_same h
  | edit ids update => exact (locks_finishEdit rfl ids update).after_same h

theorem locks_nextChunk (h : store.grid.requests = before.grid.requests) (load : ByteLoad) :
    before.Locks kind none (store.nextChunk load) := by
  unfold nextChunk
  split
  · exact locks_done h _
  · exact locks_waiting (congrArg (·.get kind) h) (.contents _)

theorem locks_load (h : store.grid.requests = before.grid.requests) (facet : ByteFacet)
    (ids : List ItemId) (size : Nat) : before.Locks kind none (store.load facet ids size) :=
  locks_nextChunk ((store.grid.sameUpTo_claimAll facet ids).requests_eq.trans h) _

theorem locks_finishSuggestions (h : store.grid.requests = before.grid.requests) (search : String)
    (completions : List String) :
    before.Locks kind none (store.finishSuggestions search completions) :=
  locks_done ((store.requests_offerCompletions search completions).trans h) _

theorem locks_rememberSuggestions (store : Store) (search : String) (completions : List String) :
    store.Locks kind none (store.rememberSuggestions search completions) := by
  have hremembered : (store.remember search completions).grid.requests = store.grid.requests := rfl
  exact locks_finishSuggestions hremembered search completions

/-! ## Starting on the selection -/

/-- No request on the selection starts while it runs, or while nothing is selected. -/
theorem beginOnSelection_eq_none_iff : store.beginOnSelection kind = none ↔
    store.grid.requests.get kind = .loading ∨ store.grid.selected = [] := by
  rw [beginOnSelection, Option.map_eq_none_iff, Grid.beginOnSelection?]
  split
  · rename_i hloading
    exact iff_of_true rfl (Or.inl hloading)
  · rename_i hfree
    dsimp only
    rw [or_iff_right hfree]
    split
    · rename_i hempty
      exact iff_of_true rfl (List.map_eq_nil_iff.mp (List.isEmpty_iff.mp hempty))
    · rename_i hsome
      refine iff_of_false (Option.some_ne_none _) fun hnone => hsome ?_
      rw [hnone]
      rfl

/-- An operation that starts a request either is turned away and does nothing, or is let through,
sets the request running and carries it out. -/
theorem begin_onSelection {operation : Operation} (hbegins : store.Begins operation result)
    (h : operation.request? = some kind) :
    (store.beginOnSelection kind = none ∧ result.1 = store ∧ result.2.pendings = []) ∨
    ((store.beginOnSelection kind).isSome ∧
      result.1.grid.requests = store.grid.requests.set kind .loading ∧
      carriedBy result.2.pendings = [kind]) := by
  cases hbegins with
  | declined operation outcome hdeclines =>
    cases operation <;> cases h <;> exact Or.inl ⟨hdeclines, rfl, rfl⟩
  | archive targets hbegin =>
    cases h
    exact Or.inr ⟨hbegin ▸ rfl,
      (requests_mark _ _ false).trans (store.requests_moveRequest _ _), rfl⟩
  | delete targets hbegin =>
    cases h
    exact Or.inr ⟨hbegin ▸ rfl, store.requests_moveRequest _ _, rfl⟩
  | edit update targets hbegin =>
    cases h
    exact Or.inr ⟨hbegin ▸ rfl, store.requests_moveRequest _ _, rfl⟩
  | _ => cases h

/-- A request of another kind that starts leaves the request alone. -/
theorem locks_started {other : Request} {after : Store} {pending : Pending} (hne : kind ≠ other)
    (hafter : after.grid.requests = store.grid.requests.set other .loading)
    (hpending : pending.request? = some other) :
    store.Locks kind none (after, .waiting pending) := by
  have hnext : carriedBy [pending] = [other] := by
    rw [carriedBy, List.filterMap_cons_some hpending, List.filterMap_nil]
  refine .leaves ?_ ?_
  · dsimp only
    rw [hafter, Requests.get_set, if_neg hne]
  · rw [Progress.pendings, hnext, List.count_singleton, if_neg fun he => hne (eq_of_beq he).symm]
    rfl

/-! ## Pages -/

variable (hkind : kind ≠ .query)
include hkind

/-- Moving the query leaves the other requests alone. -/
theorem get_moveQuery (store : Store) (state : RequestStatus) :
    (store.moveRequest .query state).grid.requests.get kind = store.grid.requests.get kind := by
  rw [requests_moveRequest, Requests.get_set, if_neg hkind]

/-- Clearing the view leaves all requests alone but the query. -/
theorem get_clear (store : Store) (keepQuery : Bool) :
    (store.clear keepQuery).grid.requests.get kind = store.grid.requests.get kind := by
  rw [requests_clear]
  split
  · rw [Requests.get_set, if_neg hkind]
  · rfl

/-- Asking for a page carries on what the page is asked for. -/
theorem locks_askPage (store : Store) (queries : List Query) (page epoch : Nat)
    (purpose : Purpose) :
    store.Locks kind purpose.request? (store.askPage queries page epoch purpose) :=
  locks_waiting (get_moveQuery hkind store .loading) (.page ⟨_, epoch, purpose⟩)

theorem locks_openQuery (h : store.grid.requests.get kind = before.grid.requests.get kind)
    (queries : List Query) (page : Nat) (purpose : Purpose) :
    before.Locks kind purpose.request? (store.openQuery queries page purpose) :=
  (locks_askPage hkind { store with grid := (store.grid.openQuery queries page).2 } queries page _
    purpose).after_same h

theorem locks_settlePage (h : store.grid.requests.get kind = before.grid.requests.get kind)
    (run : PageRun) (added : List ItemId) :
    before.Locks kind run.purpose.request? (store.settlePage run added) :=
  locks_afterPage ((get_moveQuery hkind store .succeeded).trans h) run _

theorem locks_mergePage (store : Store) (run : PageRun) (page : Page) :
    store.Locks kind run.purpose.request? (store.mergePage run page) := by
  have hmerged := congrArg (Requests.get · kind) (store.grid.requests_mergePage run.epoch page)
  unfold mergePage
  split
  · rename_i grid hnone
    rw [hnone] at hmerged
    exact locks_afterPage hmerged run _
  · rename_i merged grid hsome
    rw [hsome] at hmerged
    have hclaimed := congrArg (·.get kind) (grid.sameUpTo_claimRecords merged.added).requests_eq
    dsimp only
    rw [publish, grid_publishFor]
    split
    · exact locks_settlePage hkind (hclaimed.trans hmerged) run _
    · exact locks_waiting (hclaimed.trans hmerged) (.pageRecords run _ _)

theorem locks_losePage (store : Store) (run : PageRun) (failure : Failure) :
    store.Locks kind run.purpose.request? (store.losePage run failure) := by
  unfold losePage
  cases hlost : store.grid.withdrawPage? run.epoch with
  | none => exact locks_afterPage rfl run _
  | some grid =>
    obtain ⟨-, rfl⟩ := Grid.withdrawPage?_eq_some hlost
    refine locks_afterPage ?_ run _
    exact get_moveQuery hkind _ (.failed failure.message)

/-! ## Every operation -/

/-- An edit goes on while the query that fills the view again is waited for. -/
theorem locks_rebuild (store : Store) (ids : List ItemId) (update : Metadata) :
    store.Locks kind (some .metadataEdit) (store.rebuild ids update) := by
  have hforget : (store.setDialog false).2.forget.grid.requests = store.grid.requests :=
    store.requests_setDialog false
  unfold rebuild
  dsimp only
  generalize (store.setDialog false).2.forget = closed at hforget ⊢
  have hunloaded : (closed.unload .thumbnail closed.grid.ids).2.grid.requests =
      store.grid.requests := (closed.requests_unload _ _).trans hforget
  have hcleared := (get_clear hkind ((closed.unload .thumbnail closed.grid.ids).2.unload .full
    closed.grid.ids).2 true).trans
    (congrArg (·.get kind) ((requests_unload _ _ _).trans hunloaded))
  split
  · exact (locks_finishEdit rfl ids update).after_same hcleared
  · exact locks_openQuery hkind hcleared _ 0 (.edit ids update)

/-- An operation that goes on carries on its request, or ends and frees it. -/
theorem locks_resume {pending : Pending} {reply : Reply}
    (h : store.resume pending reply = some result) :
    store.Locks kind pending.request? result := by
  have hstored : ∀ claimed records, (store.storeRecords claimed records).2.grid.requests.get kind =
      store.grid.requests.get kind := fun claimed records =>
    congrArg (·.get kind) (store.requests_storeRecords claimed records)
  have hgiven : ∀ claimed, (store.giveUpRecords claimed).grid.requests.get kind =
      store.grid.requests.get kind := fun claimed =>
    congrArg (·.get kind) (store.requests_giveUpRecords claimed)
  cases resumes_of_eq_some h with
  | page run page => exact locks_mergePage hkind store run page
  | pageLost run failure => exact locks_losePage hkind store run failure
  | pageRecords run added claimed records =>
    exact locks_settlePage hkind (hstored claimed records) run added
  | pageRecordsLost run added claimed failure =>
    exact locks_afterPage ((get_moveQuery hkind _ _).trans (hgiven claimed)) run _
  | records claimed records => exact locks_done (store.requests_storeRecords claimed records) _
  | recordsLost claimed failure => exact locks_done (store.requests_giveUpRecords claimed) _
  | contents load outcomes hlength =>
    exact locks_nextChunk (requests_settleClaims load.facet (store, load.summary) _) _
  | archive items => exact locks_ended rfl .download (by simp) _
  | archiveLost items failure => exact locks_ended rfl .download (by simp) _
  | delete targets =>
    have hdiscarded : (store.forget.discard (targets.map (·.1))).2.grid.requests =
        store.grid.requests := store.forget.requests_discard _
    exact locks_ended hdiscarded .delete (by simp) _
  | deleteLost targets failure => exact locks_ended rfl .delete (by simp) _
  | edit targets update => exact locks_rebuild hkind store _ update
  | editLost targets update failure => exact locks_ended rfl .metadataEdit (by simp) _
  | suggestNone search request fragments page hempty =>
    exact locks_rememberSuggestions store search []
  | suggestPage search request fragments page hsome =>
    exact locks_waiting rfl (.suggestRecords search page.refs fragments)
  | suggestPageLost search request fragments failure => exact locks_done rfl _
  | suggestRecords search refs fragments records =>
    exact locks_rememberSuggestions store search _
  | suggestRecordsLost search refs fragments failure => exact locks_done rfl _

/-- A command leaves the requests on the selection alone. -/
theorem get_obey (store : Store) (command : Command) :
    (store.obey command).grid.requests.get kind = store.grid.requests.get kind := by
  cases command with
  | clear keepQuery => exact get_clear hkind store keepQuery
  | _ => simp [obey, pick]

/-- An operation that starts another request, or none, leaves the request of a kind alone. -/
theorem locks_begin {operation : Operation} (hbegins : store.Begins operation result)
    (h : operation.request? ≠ some kind) : store.Locks kind none result := by
  have hne : ∀ {other}, operation.request? = some other → kind ≠ other := fun hother he =>
    h (hother.trans (congrArg some he.symm))
  cases hbegins with
  | declined operation outcome hdeclines => exact locks_done rfl outcome
  | openQuery queries page => exact locks_openQuery hkind rfl queries page .report
  | furtherPage page queries epoch asked hask =>
    obtain ⟨active, -, -, -, -, -, rfl⟩ := Grid.askFurther?_eq_some_iff.mp hask
    exact (locks_askPage hkind _ queries page epoch .report).after_same rfl
  | refill active hactive => exact locks_openQuery hkind (get_clear hkind store true) _ 0 .report
  | submit => exact locks_openQuery hkind (get_clear hkind store false) _ 0 .report
  | describe ids hsome =>
    have hclaimed := (store.grid.sameUpTo_claimRecords ids).requests_eq
    exact locks_waiting (congrArg (·.get kind) hclaimed) (.records _)
  | thumbnails ids chunk => exact locks_load rfl .thumbnail ids chunk
  | image id hin => exact locks_load rfl .full [id] 1
  | followScroll entered exited =>
    exact locks_load (store.requests_unload .thumbnail exited) .thumbnail entered _
  | archive targets hbegin =>
    have hmarked := requests_mark (store.moveRequest .download .loading)
      (some (targets.map (·.1))) false
    exact locks_started (hne rfl) (hmarked.trans (store.requests_moveRequest _ _)) rfl
  | delete targets hbegin => exact locks_started (hne rfl) (store.requests_moveRequest _ _) rfl
  | edit update targets hbegin =>
    exact locks_started (hne rfl) (store.requests_moveRequest _ _) rfl
  | suggestCached texts hcached => exact locks_finishSuggestions rfl _ texts
  | suggestNone hcached hnone => exact locks_finishSuggestions rfl _ []
  | suggestPage hcached hwords hlimit => exact locks_waiting rfl (.suggestPage _ _ _)

end Store

namespace Service

/-- The requests on the selection that the operations of a service carry out. -/
def carried (service : Service) : List Request := carriedBy service.waiting

/-- The calls of a service that are in flight. -/
def inFlight (service : Service) : List Call := service.waiting.flatMap Pending.calls

/-- Whether a turn starts an operation that carries out the request of a kind, and is let
through. -/
def starts (kind : Request) (service : Service) : Turn → Nat
  | .start operation =>
    if operation.request? = some kind ∧ (service.store.beginOnSelection kind).isSome then 1 else 0
  | _ => 0

/-- Whether an operation that carries out the request of a kind ends in a turn. -/
def settles (kind : Request) (service : Service) : Turn → Nat
  | .answer position reply =>
    if service.waiting[position]?.bind Pending.request? = some kind ∧
        (service.resumed? position reply).any (·.2.pendings.isEmpty) then 1 else 0
  | _ => 0

/-- The request of a kind runs while one operation carries it out, and only then. -/
def Exclusive (kind : Request) (service : Service) : Prop :=
  service.carried.count kind = if service.store.grid.requests.get kind = .loading then 1 else 0

variable {kind : Request} {service : Service}

/-- Who carries out a request is among the newcomers or the others. -/
theorem carried_append (kind : Request) (store : Store) (newcomers others : List Pending) :
    (carried ⟨store, newcomers ++ others⟩).count kind =
      (carriedBy newcomers).count kind + (carriedBy others).count kind := by
  rw [carried, carriedBy, List.filterMap_append, List.count_append]
  rfl

/-- The operation at a position carries out a request, or one of the others does. -/
theorem count_carried (kind : Request) {position : Nat} {pending : Pending}
    (h : service.waiting[position]? = some pending) :
    service.carried.count kind = pending.request?.toList.count kind +
      (carriedBy (service.waiting.eraseIdx position)).count kind := by
  obtain ⟨hlt, rfl⟩ := List.getElem?_eq_some_iff.mp h
  have hperm := (List.getElem_cons_eraseIdx_perm hlt).symm.filterMap Pending.request?
  rw [carried, carriedBy, hperm.count_eq, List.filterMap_cons]
  cases service.waiting[position].request? with
  | none => exact (Nat.zero_add _).symm
  | some other =>
    have happend : ∀ rest, ([other] ++ rest).count kind = [other].count kind + rest.count kind :=
      fun _ => List.count_append
    exact happend _

/-- What every turn keeps, with what it adds to the account of a request. -/
structure Accounts (kind : Request) (before : Service) (starts settles : Nat) (after : Service) :
    Prop where
  /-- The request still runs while one operation carries it out, and only then. -/
  exclusive : after.Exclusive kind
  /-- Operations carry the request out from their start until they are settled. -/
  balance : before.carried.count kind + starts = settles + after.carried.count kind

/-- What leaves a request alone keeps its account. -/
theorem Exclusive.unchanged (h : service.Exclusive kind) {after : Service}
    (hstate : after.store.grid.requests.get kind = service.store.grid.requests.get kind)
    (hcarried : after.carried.count kind = service.carried.count kind) :
    Accounts kind service 0 0 after where
  exclusive := by rw [Exclusive, hcarried, hstate, h]
  balance := by rw [hcarried, Nat.zero_add, Nat.add_zero]

/-- An operation that goes on carries its request on, or is settled and frees it. -/
theorem Exclusive.resumed (h : service.Exclusive kind) {position : Nat} {pending : Pending}
    {result : Store × Progress} (hpending : service.waiting[position]? = some pending)
    (hlocks : service.store.Locks kind pending.request? result) :
    Accounts kind service 0
      (if pending.request? = some kind ∧ result.2.pendings.isEmpty then 1 else 0)
      ⟨result.1, result.2.pendings ++ service.waiting.eraseIdx position⟩ := by
  have hbefore := count_carried kind hpending
  have hafter := carried_append kind result.1 result.2.pendings
    (service.waiting.eraseIdx position)
  cases hlocks with
  | leaves hstate hnext =>
    have hgoes : ¬(pending.request? = some kind ∧ result.2.pendings.isEmpty) := by
      rintro ⟨hcarries, hempty⟩
      rw [hcarries, List.isEmpty_iff.mp hempty, Option.toList_some, List.count_singleton_self]
        at hnext
      cases hnext
    rw [if_neg hgoes]
    exact h.unchanged hstate (by rw [hafter, hnext, hbefore])
  | frees hcarried hended hstate =>
    rw [hcarried, Option.toList_some, List.count_singleton_self] at hbefore
    rw [hended, carriedBy, List.filterMap_nil, List.count_nil, Nat.zero_add] at hafter
    -- The operation was the only one to carry the request out.
    have hrest : (carriedBy (service.waiting.eraseIdx position)).count kind = 0 := by
      rw [Exclusive] at h
      split at h <;> omega
    rw [if_pos ⟨hcarried, List.isEmpty_iff.mpr hended⟩, hended]
    refine ⟨?_, ?_⟩
    · rw [Exclusive, if_neg hstate]
      exact hafter.trans hrest
    · rw [hafter, hbefore, hrest]

/-- An operation that starts is let through where its request is free, or does nothing to it. -/
theorem Exclusive.started (h : service.Exclusive kind) (hkind : kind ≠ .query)
    (operation : Operation) :
    Accounts kind service (service.starts kind (.start operation)) 0
      (service.turn (.start operation)) := by
  have hafter := carried_append kind (service.store.begin operation).1
    (service.store.begin operation).2.pendings service.waiting
  by_cases hrequest : operation.request? = some kind
  · rcases Store.begin_onSelection (service.store.begins operation) hrequest with
      ⟨hnone, hsame, hended⟩ | ⟨hsome, hstate, hcarries⟩
    · have hstarts : service.starts kind (.start operation) = 0 := by
        simp only [starts, hnone, Option.isSome_none, Bool.false_eq_true, and_false, if_false]
      rw [hstarts]
      refine h.unchanged (congrArg (·.grid.requests.get kind) hsame) (hafter.trans ?_)
      rw [hended, carriedBy, List.filterMap_nil, List.count_nil, Nat.zero_add]
      rfl
    · have hstarts : service.starts kind (.start operation) = 1 := if_pos ⟨hrequest, hsome⟩
      have hfree : service.store.grid.requests.get kind ≠ .loading := fun hloading => by
        rw [Store.beginOnSelection_eq_none_iff.mpr (Or.inl hloading)] at hsome
        cases hsome
      have hbefore : service.carried.count kind = 0 := h.trans (if_neg hfree)
      have hcount : (service.turn (.start operation)).carried.count kind = 1 := by
        refine hafter.trans ?_
        rw [hcarries, List.count_singleton_self]
        exact congrArg (1 + ·) hbefore
      refine ⟨?_, by rw [hstarts, hbefore, hcount]⟩
      refine hcount.trans (if_pos ?_).symm
      exact (congrArg (·.get kind) hstate).trans ((Requests.get_set _ _ _ _).trans (if_pos rfl))
  · have hstarts : service.starts kind (.start operation) = 0 := if_neg fun hs => hrequest hs.1
    rw [hstarts]
    cases Store.locks_begin hkind (service.store.begins operation) hrequest with
    | leaves hstate hnext =>
      exact h.unchanged hstate (hafter.trans (by rw [hnext]; exact Nat.zero_add _))
    | frees hcarried hended hstate => cases hcarried

/-- Every turn keeps the account of a request on the selection. -/
theorem Exclusive.turn (h : service.Exclusive kind) (hkind : kind ≠ .query) (turn : Turn) :
    Accounts kind service (service.starts kind turn) (service.settles kind turn)
      (service.turn turn) := by
  cases turn with
  | command command => exact h.unchanged (Store.get_obey hkind service.store command) rfl
  | start operation => exact h.started hkind operation
  | answer position reply =>
    cases hresumed : service.resumed? position reply with
    | none =>
      have hsettles : service.settles kind (.answer position reply) = 0 := by
        simp only [settles, hresumed, Option.any_none, Bool.false_eq_true, and_false, if_false]
      rw [hsettles, turn_of_not_resumed hresumed]
      exact h.unchanged rfl rfl
    | some result =>
      obtain ⟨pending, hpending, hresume⟩ := Option.bind_eq_some_iff.mp hresumed
      have hsettles : service.settles kind (.answer position reply) =
          if pending.request? = some kind ∧ result.2.pendings.isEmpty then 1 else 0 := by
        simp only [settles, hresumed, hpending, Option.bind_some, Option.any_some]
      rw [hsettles, turn_of_resumed hresumed]
      exact h.resumed hpending (Store.locks_resume hkind hresume)

/-! ## Runs -/

theorem exclusive_fresh (config : Config) (draw : Nat → Uuid) (kind : Request) :
    (fresh config draw).Exclusive kind := by
  cases kind <;> rfl

theorem exclusive_run (config : Config) (draw : Nat → Uuid) (hkind : kind ≠ .query)
    (turns : List Turn) : ((fresh config draw).run turns).Exclusive kind :=
  run_keeps (fun _ turn h => (h.turn hkind turn).exclusive) (exclusive_fresh config draw kind) turns

/-- What was started during a run was settled, or is still carried out. -/
theorem balance_run (h : service.Exclusive kind) (hkind : kind ≠ .query) (turns : List Turn) :
    service.carried.count kind + total (starts kind) service turns =
      total (settles kind) service turns + (service.run turns).carried.count kind := by
  induction turns generalizing service with
  | nil => exact Nat.add_comm _ _
  | cons turn rest ih =>
    have hturn := h.turn hkind turn
    have hrest := ih hturn.exclusive
    have hbalance := hturn.balance
    have hrun : service.run (turn :: rest) = (service.turn turn).run rest := rfl
    rw [total, total, hrun]
    omega

/-- The calls in flight for a request are no more than the operations that carry it out. -/
theorem count_inFlight_le (kind : Request) (waiting : List Pending) :
    ((waiting.flatMap Pending.calls).filterMap Call.request?).count kind ≤
      (carriedBy waiting).count kind := by
  induction waiting with
  | nil => exact Nat.le_refl _
  | cons pending rest ih =>
    have hcarried : carriedBy (pending :: rest) = pending.request?.toList ++ carriedBy rest := by
      rw [carriedBy, List.filterMap_cons]
      cases pending.request? <;> rfl
    rw [List.flatMap_cons, List.filterMap_append, List.count_append, hcarried, List.count_append]
    rcases pending.calls_for with hcalls | hcalls
    · rw [hcalls, List.count_nil]
      omega
    · rw [hcalls]
      omega

/-- Operations on the selection exclude each other, each kind for itself. The request of a kind
runs exactly while one operation of the kind is under way, and never two: those that were let
through are those that were settled, and the one that is under way. So at most one call for the kind
is in flight, and only while the request runs. An operation that starts while the request runs,
or while nothing is selected, changes nothing and makes no call; any other is let through. -/
theorem one_at_a_time (config : Config) (draw : Nat → Uuid) (turns : List Turn) (kind : Request)
    (hkind : kind ≠ .query) :
    let service := (fresh config draw).run turns
    let underWay := service.carried.count kind
    (underWay = if service.store.grid.requests.get kind = .loading then 1 else 0) ∧
    (total (starts kind) (fresh config draw) turns =
      total (settles kind) (fresh config draw) turns + underWay) ∧
    ((service.inFlight.filterMap Call.request?).count kind ≤ underWay) ∧
    ∀ operation, operation.request? = some kind →
      (service.store.grid.requests.get kind = .loading ∨ service.store.grid.selected = [] →
        service.turn (.start operation) = service) ∧
      (service.store.grid.requests.get kind ≠ .loading → service.store.grid.selected ≠ [] →
        service.starts kind (.start operation) = 1 ∧
          (service.turn (.start operation)).store.grid.requests.get kind = .loading) := by
  intro service underWay
  have hexclusive : service.Exclusive kind := exclusive_run config draw hkind turns
  have hbalance := balance_run (exclusive_fresh config draw kind) hkind turns
  have hfresh : (fresh config draw).carried.count kind = 0 := rfl
  rw [hfresh, Nat.zero_add] at hbalance
  have hcalls := count_inFlight_le kind service.waiting
  refine ⟨hexclusive, hbalance, hcalls, fun operation hrequest => ?_⟩
  have hguard : service.store.beginOnSelection kind = none ↔ _ :=
    Store.beginOnSelection_eq_none_iff
  rcases Store.begin_onSelection (service.store.begins operation) hrequest with
    ⟨hnone, hsame, hended⟩ | ⟨hsome, hstate, hcarries⟩
  · refine ⟨fun _ => ?_, fun hfree hselected => ?_⟩
    · exact congrArg₂ (fun store pendings => Service.mk store (pendings ++ service.waiting)) hsame
        hended
    · exact absurd (hguard.mp hnone) (not_or.mpr ⟨hfree, hselected⟩)
  · refine ⟨fun hturned => ?_, fun _ _ => ⟨if_pos ⟨hrequest, hsome⟩, ?_⟩⟩
    · rw [hguard.mpr hturned] at hsome
      cases hsome
    · exact (congrArg (·.get kind) hstate).trans ((Requests.get_set _ _ _ _).trans (if_pos rfl))

/-- While an edit waits for the backend the view is cleared, and a deletion starts. A second edit is
turned away, and there is one change of metadata and one deletion in flight. -/
theorem one_at_a_time_edit :
    let ref : Artifact := ⟨"b", "a", .image⟩
    let turns : List Turn :=
      [.command (.add [ref]), .command (.mark none true), .start (.edit .empty),
        .start .delete, .command (.clear true), .command (.add [ref]),
        .command (.mark none true)]
    let service := (fresh .standard .supply).run turns
    service.inFlight = [.delete [ref], .changeRecords .empty [ref]] ∧
      service.turn (.start (.edit .empty)) = service ∧
      service.carried.count .metadataEdit = 1 ∧ service.carried.count .delete = 1 := by
  intro ref turns service
  have hcalls : service.inFlight = [.delete [ref], .changeRecords .empty [ref]] := by
    decide +kernel
  have hruns : service.store.grid.requests.get .metadataEdit = .loading := by decide +kernel
  have hdeletes : service.store.grid.requests.get .delete = .loading := by decide +kernel
  have hservice : (fresh .standard .supply).run turns = service := rfl
  have hmeta := one_at_a_time .standard .supply turns .metadataEdit (by decide)
  have hdelete := one_at_a_time .standard .supply turns .delete (by decide)
  clear_value service
  simp only [hservice, hruns, hdeletes, if_pos] at hmeta hdelete
  exact ⟨hcalls, (hmeta.2.2.2 (.edit .empty) rfl).1 (Or.inl trivial), hmeta.1, hdelete.1⟩

end Service

end MediaGrid
