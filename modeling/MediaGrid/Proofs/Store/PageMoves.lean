import MediaGrid.Proofs.Store.Paging

/-!
# Moves of the pages of a query

What matters for the pages of the query is the epoch, the query, and the numbers of the pages that
are waited for in the epoch. Every turn of a service is one of six moves of these: it rests, it
clears, it opens a query, it asks for a further page, or a page is merged or lost. Which move it
is can be told before the turn, and each move changes them in one way. Pages of earlier epochs
count for nothing, and neither does the metadata of what a page added.
-/

namespace MediaGrid

/-- What matters for the pages of the query. -/
structure Paging where
  /-- The epoch. -/
  epoch : Nat
  /-- The query, if there is one. -/
  active : Option PagedQuery
  /-- The numbers of the pages that are waited for in the epoch, once for each request. -/
  inFlight : List Nat

/-- What a turn means for the pages of the query. -/
inductive PageMove where
  /-- Nothing. -/
  | rests
  /-- The epoch ends. -/
  | clears
  /-- A query is begun, and its first page is asked for. -/
  | opens (queries : List Query) (page : Nat)
  /-- A further page is asked for. -/
  | asks (page : Nat)
  /-- A page that was asked for is merged. -/
  | merges (asked : Nat) (page : Page)
  /-- A page that was asked for failed. -/
  | loses (asked : Nat)
  deriving DecidableEq

/-- How a move changes what matters for the pages. -/
inductive Paging.Moves (before : Paging) : PageMove → Paging → Prop where
  /-- Nothing changes. -/
  | rests : Moves before .rests before
  /-- Nothing is waited for in the new epoch, and the query is dropped or kept as it was. -/
  | clears {epoch : Nat} {active : Option PagedQuery} (hepoch : before.epoch < epoch)
    (hactive : active = none ∨ active = before.active) :
    Moves before .clears ⟨epoch, active, []⟩
  /-- In the new epoch the first page of the new query is waited for. -/
  | opens (queries : List Query) (page : Nat) {epoch : Nat} (hepoch : before.epoch < epoch) :
    Moves before (.opens queries page) ⟨epoch, some ⟨queries, page, false, page⟩, [page]⟩
  /-- One more page is waited for, which lies beyond every page merged or asked for. -/
  | asks (page : Nat) {active : PagedQuery} (hactive : before.active = some active)
    (hmore : active.hasMore = true) (hpage : active.page < page)
    (hrequested : active.requested < page) :
    Moves before (.asks page)
      ⟨before.epoch, some { active with requested := page }, page :: before.inFlight⟩
  /-- The page is waited for no more. -/
  | merges (asked : Nat) (page : Page) {active : PagedQuery} {inFlight : List Nat}
    (hactive : before.active = some active) (hinFlight : before.inFlight.Perm (asked :: inFlight)) :
    Moves before (.merges asked page) ⟨before.epoch, some (active.merged page), inFlight⟩
  /-- The page is waited for no more, and every page beyond the last merged one may be asked
  for. -/
  | loses (asked : Nat) {active : PagedQuery} {inFlight : List Nat}
    (hactive : before.active = some active) (hinFlight : before.inFlight.Perm (asked :: inFlight)) :
    Moves before (.loses asked)
      ⟨before.epoch, some { active with requested := active.page }, inFlight⟩

/-- The epoch does not go back. -/
theorem Paging.Moves.epoch_le {before after : Paging} {move : PageMove}
    (h : before.Moves move after) : before.epoch ≤ after.epoch := by
  cases h with
  | clears hepoch hactive => exact Nat.le_of_lt hepoch
  | opens queries page hepoch => exact Nat.le_of_lt hepoch
  | _ => exact Nat.le_refl _

/-! ## The pages of a service -/

/-- The run that waits for a page. -/
def Pending.pageRun? : Pending → Option PageRun
  | .page run => some run
  | _ => none

/-- The number of the page of an epoch that is waited for. -/
def Pending.asked? (epoch : Nat) (pending : Pending) : Option Nat :=
  (pending.pageRun?.filter (·.epoch = epoch)).map (·.request.page)

namespace Service

/-- What matters for the pages of the query of a service. -/
def paging (service : Service) : Paging where
  epoch := service.store.grid.epoch
  active := service.store.grid.active
  inFlight := service.waiting.filterMap (Pending.asked? service.store.grid.epoch)

/-- The run of the epoch that a turn answers, with what the backend says of its page. -/
def answeredPage? (service : Service) : Turn → Option (PageRun × Except Failure Page)
  | .answer position (.page outcome) =>
    ((service.waiting[position]?.bind Pending.pageRun?).filter
      (·.epoch = service.store.grid.epoch)).map fun run => (run, outcome)
  | _ => none

/-- What a turn means for the pages of the query. -/
def pageMove (service : Service) (turn : Turn) : PageMove :=
  match service.answeredPage? turn with
  | some (run, .ok page) => .merges run.request.page page
  | some (run, .error _) => .loses run.request.page
  | none =>
    match (service.newcomers turn).findSome? Pending.pageRun? with
    | some run =>
      if run.epoch = service.store.grid.epoch then .asks run.request.page
      else .opens run.request.predicates run.request.page
    | none =>
      if (service.turn turn).store.grid.epoch = service.store.grid.epoch then .rests else .clears

/-- The moves of a run. -/
def pageMoves (service : Service) : List Turn → List PageMove
  | [] => []
  | turn :: rest => service.pageMove turn :: (service.turn turn).pageMoves rest

variable {service : Service}

/-- Nothing of a later epoch is waited for. -/
theorem asked?_of_lt (h : service.Covered) {epoch : Nat} (hlt : service.store.grid.epoch < epoch)
    {others : List Pending} (hsub : ∀ pending ∈ others, pending ∈ service.waiting) :
    others.filterMap (Pending.asked? epoch) = [] := by
  refine List.filterMap_eq_nil_iff.mpr fun pending hm => ?_
  cases pending with
  | page run =>
    have hle := (h.runs _ (hsub _ hm) run rfl).1
    have hne : run.epoch ≠ epoch := by omega
    simp [Pending.asked?, Pending.pageRun?, hne]
  | _ => rfl

/-- Where no page starts to be waited for, nothing is added to what is in flight. -/
theorem filterMap_of_none {newcomers : List Pending} (h : ∀ run, .page run ∉ newcomers)
    (epoch : Nat) : newcomers.filterMap (Pending.asked? epoch) = [] ∧
      newcomers.findSome? Pending.pageRun? = none := by
  constructor
  · refine List.filterMap_eq_nil_iff.mpr fun pending hm => ?_
    cases pending with
    | page run => exact absurd hm (h run)
    | _ => rfl
  · refine List.findSome?_eq_none_iff.mpr fun pending hm => ?_
    cases pending with
    | page run => exact absurd hm (h run)
    | _ => rfl

/-- The move of a turn that answers no page of the epoch. -/
theorem moves_of_asks (h : service.Covered) {turn : Turn} {result : Store × Progress}
    {others : List Pending} (hasks : service.store.Asks result)
    (hturn : service.turn turn = ⟨result.1, result.2.pendings ++ others⟩)
    (hnew : service.newcomers turn = result.2.pendings)
    (hpage : service.answeredPage? turn = none)
    (hsub : ∀ pending ∈ others, pending ∈ service.waiting)
    (hothers : others.filterMap (Pending.asked? service.store.grid.epoch) =
      service.paging.inFlight) :
    service.paging.Moves (service.pageMove turn) (service.turn turn).paging := by
  simp only [pageMove, hpage, hnew, hturn]
  cases hasks with
  | nothing hsame hnone =>
    obtain ⟨hnewcomers, hfind⟩ := filterMap_of_none hnone service.store.grid.epoch
    have hafter : paging ⟨result.1, result.2.pendings ++ others⟩ = service.paging := by
      simp only [paging, hsame.epoch, hsame.active, List.filterMap_append, hnewcomers, hothers,
        List.nil_append]
    rw [hfind, hafter]
    dsimp only
    rw [if_pos hsame.epoch]
    exact .rests
  | clears hepoch hactive hnone =>
    obtain ⟨hnewcomers, hfind⟩ := filterMap_of_none hnone result.1.grid.epoch
    have hafter : paging ⟨result.1, result.2.pendings ++ others⟩ =
        ⟨result.1.grid.epoch, result.1.grid.active, []⟩ := by
      simp only [paging, List.filterMap_append, hnewcomers, asked?_of_lt h hepoch hsub,
        List.nil_append]
    rw [hfind, hafter]
    dsimp only
    rw [if_neg (Nat.ne_of_gt hepoch)]
    exact .clears hepoch hactive
  | opens run hepoch hactive hrun hwaits =>
    have hne : run.epoch ≠ service.store.grid.epoch := hrun ▸ Nat.ne_of_gt hepoch
    have hafter : paging ⟨result.1, result.2.pendings ++ others⟩ =
        ⟨result.1.grid.epoch, result.1.grid.active, [run.request.page]⟩ := by
      simp [paging, hwaits, asked?_of_lt h hepoch hsub, Pending.asked?, Pending.pageRun?, hrun]
    rw [hafter, hactive, hwaits]
    simp only [List.findSome?_cons, Pending.pageRun?, if_neg hne]
    exact .opens _ _ hepoch
  | further run active hepoch hactive hmore hlt hrequested hnext hrun hwaits =>
    have hafter : paging ⟨result.1, result.2.pendings ++ others⟩ =
        ⟨service.paging.epoch, result.1.grid.active,
          run.request.page :: service.paging.inFlight⟩ := by
      rw [← hothers]
      simp [paging, hwaits, hepoch, Pending.asked?, Pending.pageRun?, hrun]
    rw [hafter, hnext, hwaits]
    simp only [List.findSome?_cons, Pending.pageRun?, if_pos hrun]
    exact .asks _ hactive hmore hlt hrequested

/-- A run of the epoch that a turn answers waits for a page at the position that is answered. -/
theorem answeredPage?_eq_some {turn : Turn} {run : PageRun} {outcome : Except Failure Page}
    (h : service.answeredPage? turn = some (run, outcome)) :
    ∃ position, turn = .answer position (.page outcome) ∧
      service.waiting[position]? = some (.page run) ∧ run.epoch = service.store.grid.epoch := by
  unfold answeredPage? at h
  split at h
  · rename_i position reply
    obtain ⟨found, hfilter, he⟩ := Option.map_eq_some_iff.mp h
    cases he
    obtain ⟨hfound, hepoch⟩ := Option.filter_eq_some_iff.mp hfilter
    obtain ⟨pending, hpending, hrun⟩ := Option.bind_eq_some_iff.mp hfound
    refine ⟨position, rfl, ?_, of_decide_eq_true hepoch⟩
    cases pending with
    | page run =>
      cases hrun
      exact hpending
    | _ => cases hrun
  · cases h

/-- An operation that goes on without answering a page of the epoch waits for none. -/
theorem ne_of_answeredPage?_eq_none {position : Nat} {reply : Reply} {result : Store × Progress}
    {run : PageRun} (h : service.answeredPage? (.answer position reply) = none)
    (hwaits : service.waiting[position]? = some (.page run))
    (hresume : service.store.resume (.page run) reply = some result) :
    run.epoch ≠ service.store.grid.epoch := by
  intro hepoch
  cases reply with
  | page outcome =>
    simp [answeredPage?, hwaits, Pending.pageRun?, Option.filter, hepoch] at h
  | _ => cases hresume

/-- Dropping what is not counted leaves the count alone. -/
theorem filterMap_eraseIdx {α β : Type} {f : α → Option β} {items : List α} {position : Nat}
    (h : ∀ item, items[position]? = some item → f item = none) :
    (items.eraseIdx position).filterMap f = items.filterMap f := by
  induction items generalizing position with
  | nil => rfl
  | cons head rest ih =>
    cases position with
    | zero =>
      rw [List.eraseIdx_cons_zero, List.filterMap_cons_none (h head rfl)]
    | succ position =>
      rw [List.eraseIdx_cons_succ, List.filterMap_cons, List.filterMap_cons, ih h]

/-- When a page of the epoch is answered, and no other is asked for, it is not waited for any
more. -/
theorem paging_answered {position : Nat} {run : PageRun} {reply : Reply}
    {result : Store × Progress} (hwaits : service.waiting[position]? = some (.page run))
    (hepoch : run.epoch = service.store.grid.epoch)
    (hresume : service.store.resume (.page run) reply = some result)
    (hsame : result.1.grid.epoch = service.store.grid.epoch)
    (hnone : ∀ other, .page other ∉ result.2.pendings) :
    ∃ inFlight, service.paging.inFlight.Perm (run.request.page :: inFlight) ∧
      (service.turn (.answer position reply)).paging =
        ⟨service.store.grid.epoch, result.1.grid.active, inFlight⟩ := by
  obtain ⟨hlt, hposition⟩ := List.getElem?_eq_some_iff.mp hwaits
  have hperm := (List.getElem_cons_eraseIdx_perm hlt).symm.filterMap
    (Pending.asked? service.store.grid.epoch)
  have hasked : (Pending.page run).asked? service.store.grid.epoch = some run.request.page := by
    simp [Pending.asked?, Pending.pageRun?, hepoch]
  rw [hposition, List.filterMap_cons_some hasked] at hperm
  refine ⟨_, hperm, ?_⟩
  have hturn : service.turn (.answer position reply) =
      ⟨result.1, result.2.pendings ++ service.waiting.eraseIdx position⟩ :=
    turn_of_resumed (by rw [resumed?, hwaits, Option.bind_some, hresume])
  have hnewcomers := (filterMap_of_none hnone service.store.grid.epoch).1
  simp only [hturn, paging, hsame, List.filterMap_append, hnewcomers, List.nil_append]

/-- A page of the epoch that is answered is merged or lost. -/
theorem moves_of_answeredPage (h : service.Covered) {turn : Turn} {run : PageRun}
    {outcome : Except Failure Page} (hpage : service.answeredPage? turn = some (run, outcome)) :
    service.paging.Moves (service.pageMove turn) (service.turn turn).paging := by
  obtain ⟨position, rfl, hwaits, hepoch⟩ := answeredPage?_eq_some hpage
  have hsome := (h.runs _ (List.mem_of_getElem? hwaits) run rfl).2 hepoch
  obtain ⟨active, hactive⟩ := Option.isSome_iff_exists.mp hsome
  simp only [pageMove, hpage]
  cases outcome with
  | ok page =>
    have hresume : service.store.resume (.page run) (.page (.ok page)) =
        some (service.store.mergePage run page) := rfl
    obtain ⟨hsame, hnext, hnone⟩ := Store.resume_page_ok hepoch hactive hresume
    obtain ⟨inFlight, hperm, hafter⟩ := paging_answered hwaits hepoch hresume hsame hnone
    rw [hafter, hnext]
    exact .merges _ page hactive hperm
  | error failure =>
    have hresume : service.store.resume (.page run) (.page (.error failure)) =
        some (service.store.losePage run failure) := rfl
    obtain ⟨hsame, hnext, hnone⟩ := Store.resume_page_error hepoch hactive hresume
    obtain ⟨inFlight, hperm, hafter⟩ := paging_answered hwaits hepoch hresume hsame hnone
    rw [hafter, hnext]
    exact .loses _ hactive hperm

/-- What goes on with an answer that is no page of the epoch waits for such a page only if it asks
for one. -/
theorem moves_of_resumed (h : service.Covered) {position : Nat} {reply : Reply}
    {result : Store × Progress}
    (hpage : service.answeredPage? (.answer position reply) = none)
    (hresumed : service.resumed? position reply = some result) :
    service.paging.Moves (service.pageMove (.answer position reply))
      (service.turn (.answer position reply)).paging := by
  obtain ⟨pending, hpending, hresume⟩ := Option.bind_eq_some_iff.mp hresumed
  have hother : ∀ run, pending = .page run → run.epoch ≠ service.store.grid.epoch := by
    rintro run rfl
    exact ne_of_answeredPage?_eq_none hpage hpending hresume
  have hnew : service.newcomers (.answer position reply) = result.2.pendings := by
    simp only [newcomers, hresumed, Option.map_some, Option.getD_some]
  have hothers : (service.waiting.eraseIdx position).filterMap
      (Pending.asked? service.store.grid.epoch) = service.paging.inFlight := by
    refine filterMap_eraseIdx fun item hitem => ?_
    cases hpending.symm.trans hitem
    cases pending with
    | page run => simp [Pending.asked?, Pending.pageRun?, hother run rfl]
    | _ => rfl
  exact moves_of_asks h (Store.asks_resume hresume hother) (turn_of_resumed hresumed) hnew
    hpage (fun _ hm => List.mem_of_mem_eraseIdx hm) hothers

/-- Every turn is one of the moves. -/
theorem moves_turn (h : service.Covered) (turn : Turn) :
    service.paging.Moves (service.pageMove turn) (service.turn turn).paging := by
  cases hpage : service.answeredPage? turn with
  | some answered => exact moves_of_answeredPage h hpage
  | none =>
    cases turn with
    | command command =>
      have hasks := service.store.asks_obey command (.ok (.done true))
      exact moves_of_asks h hasks rfl rfl hpage (fun _ hm => hm) rfl
    | start operation =>
      exact moves_of_asks h (Store.asks_begin (service.store.begins operation)) rfl rfl hpage
        (fun _ hm => hm) rfl
    | answer position reply =>
      cases hresumed : service.resumed? position reply with
      | some result => exact moves_of_resumed h hpage hresumed
      | none =>
        have hrests : service.pageMove (.answer position reply) = .rests := by
          simp [pageMove, hpage, newcomers, hresumed, turn_of_not_resumed hresumed]
        rw [hrests, turn_of_not_resumed hresumed]
        exact .rests

end Service

end MediaGrid
