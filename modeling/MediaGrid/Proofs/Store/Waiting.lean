import MediaGrid.Proofs.Store.Debts

/-!
# The operations that wait

A turn lets at most one operation go on, which then ends or waits again, and at most one start
to wait; all others go on waiting where they were. What starts to wait stands before the others,
so positions shift, and an operation is followed through a run by where it stands. An operation
that goes on and waits again counts as a newcomer, as it waits for another answer.
-/

namespace MediaGrid

namespace Store

/-! ## What starts to wait -/

variable {store : Store}

/-- A load waits for contents. -/
theorem waits_nextChunk {load : ByteLoad} {pending : Pending}
    (h : pending ∈ (store.nextChunk load).2.pendings) :
    pending.run? = none ∧ pending.described = [] ∧ pending.request? = none := by
  unfold nextChunk at h
  split at h
  · cases h
  · rw [List.mem_singleton.mp h]
    exact ⟨rfl, rfl, rfl⟩

theorem pendings_afterPage (run : PageRun) (result : Except Failure (List ItemId)) :
    (store.afterPage run result).2.pendings = [] := by
  unfold afterPage
  split <;> rfl

/-- An operation that starts waits for a page, for metadata that it claimed, or for something
that concerns neither. -/
theorem waits_begin {operation : Operation} {result : Store × Progress} {pending : Pending}
    (h : store.Begins operation result) (hm : pending ∈ result.2.pendings) :
    (∃ run, pending = .page run) ∨
      (∃ ids, pending = .records (store.grid.claimRecords ids).1) ∨
      pending.run? = none ∧ pending.described = [] := by
  cases h with
  | openQuery | furtherPage | refill | submit => exact Or.inl ⟨_, List.mem_singleton.mp hm⟩
  | describe ids hsome => exact Or.inr (Or.inl ⟨ids, List.mem_singleton.mp hm⟩)
  | thumbnails | image | followScroll =>
    exact Or.inr (Or.inr ((waits_nextChunk hm).imp_right And.left))
  | archive | delete | edit | suggestPage =>
    rw [List.mem_singleton.mp hm]
    exact Or.inr (Or.inr ⟨rfl, rfl⟩)
  | _ => cases hm

/-- An operation that goes on and waits again does so for a page, for the metadata of what its
page added, or for something that concerns neither, nor a request on the selection. -/
theorem waits_resume {pending next : Pending} {reply : Reply} {result : Store × Progress}
    (h : store.resume pending reply = some result) (hm : next ∈ result.2.pendings) :
    (∃ run, next = .page run) ∨
      (∃ run page added, pending = .page run ∧ next = .pageRecords run added
        ((store.grid.mergePage run.epoch page).2.claimRecords added).1) ∨
      next.run? = none ∧ next.described = [] ∧ next.request? = none := by
  have hended : ∀ {middle : Store} {run outcome},
      next ∉ (middle.afterPage run outcome).2.pendings := by
    intro middle run outcome hin
    rw [pendings_afterPage] at hin
    cases hin
  cases resumes_of_eq_some h with
  | page run page =>
    unfold mergePage at hm
    split at hm
    · exact absurd hm hended
    · rename_i merged grid hmerge
      dsimp only at hm
      split at hm
      · exact absurd hm hended
      · refine Or.inr (Or.inl ⟨run, page, merged.added, rfl, ?_⟩)
        rw [List.mem_singleton.mp hm, hmerge]
        simp only [publish, grid_publishFor]
  | pageLost run failure => exact absurd hm hended
  | pageRecords run added claimed records => exact absurd hm hended
  | pageRecordsLost run added claimed failure => exact absurd hm hended
  | contents load outcomes hlength => exact Or.inr (Or.inr (waits_nextChunk hm))
  | edit targets update =>
    unfold rebuild at hm
    dsimp only at hm
    split at hm
    · cases hm
    · exact Or.inl ⟨_, List.mem_singleton.mp hm⟩
  | suggestPage search request fragments page hsome =>
    rw [List.mem_singleton.mp hm]
    exact Or.inr (Or.inr ⟨rfl, rfl, rfl⟩)
  | _ => cases hm

end Store

namespace Service

/-! ## Where the operations stand -/

/-- The operation that a turn lets go on, with what it does. -/
def resumed? (service : Service) (position : Nat) (reply : Reply) :
    Option (Store × Progress) :=
  service.waiting[position]?.bind fun pending => service.store.resume pending reply

/-- The position of the operation that a turn lets go on. -/
def answered? (service : Service) : Turn → Option Nat
  | .answer position reply => (service.resumed? position reply).map fun _ => position
  | _ => none

/-- What starts to wait in a turn. -/
def newcomers (service : Service) : Turn → List Pending
  | .command _ => []
  | .start operation => (service.store.begin operation).2.pendings
  | .answer position reply =>
    ((service.resumed? position reply).map fun result => result.2.pendings).getD []

/-- The service after an answer that fits. -/
theorem turn_of_resumed {service : Service} {position : Nat} {reply : Reply}
    {result : Store × Progress} (h : service.resumed? position reply = some result) :
    service.turn (.answer position reply) =
      ⟨result.1, result.2.pendings ++ service.waiting.eraseIdx position⟩ := by
  obtain ⟨pending, hpending, hresume⟩ := Option.bind_eq_some_iff.mp h
  simp only [turn, hpending, hresume]

/-- An answer that fits nobody changes nothing. -/
theorem turn_of_not_resumed {service : Service} {position : Nat} {reply : Reply}
    (h : service.resumed? position reply = none) :
    service.turn (.answer position reply) = service := by
  simp only [turn]
  split
  · rfl
  · rename_i pending hpending
    rw [resumed?, hpending, Option.bind_some] at h
    rw [h]

/-- The operations that go on waiting stand behind the newcomers. -/
theorem waiting_turn (service : Service) (turn : Turn) :
    (service.turn turn).waiting = service.newcomers turn ++
      ((service.answered? turn).map service.waiting.eraseIdx).getD service.waiting := by
  cases turn with
  | command command => rfl
  | start operation => rfl
  | answer position reply =>
    cases h : service.resumed? position reply with
    | none => simp only [turn_of_not_resumed h, newcomers, answered?, h]; rfl
    | some result => simp only [turn_of_resumed h, newcomers, answered?, h]; rfl

/-- At most one operation starts to wait in a turn. -/
theorem newcomers_eq_of_mem {service : Service} {turn : Turn} {pending : Pending}
    (h : pending ∈ service.newcomers turn) : service.newcomers turn = [pending] := by
  have hsingle : ∀ progress : Progress, pending ∈ progress.pendings →
      progress.pendings = [pending] := by
    intro progress hm
    cases progress with
    | done result => cases hm
    | waiting other => rw [Progress.pendings, List.mem_singleton.mp hm]
  cases turn with
  | command command => cases h
  | start operation => exact hsingle _ h
  | answer position reply =>
    cases hresumed : service.resumed? position reply with
    | none =>
      simp only [newcomers, hresumed] at h
      cases h
    | some result =>
      simp only [newcomers, hresumed] at h ⊢
      exact hsingle _ h

/-- What starts to wait stands before all others. -/
theorem getElem?_newcomer {service : Service} {turn : Turn} {pending : Pending}
    (h : pending ∈ service.newcomers turn) : (service.turn turn).waiting[0]? = some pending := by
  rw [waiting_turn, newcomers_eq_of_mem h]
  rfl

/-- Where an operation stands after a turn, if it did not go on. -/
def standing (service : Service) (turn : Turn) (position : Nat) : Option Nat :=
  match service.answered? turn with
  | none => some ((service.newcomers turn).length + position)
  | some answered =>
    if position = answered then none
    else
      some ((service.newcomers turn).length +
        if position < answered then position else position - 1)

/-- Where an operation stands after several turns, if it did not go on. -/
def standings (service : Service) : List Turn → Nat → Option Nat
  | [], position => some position
  | turn :: rest, position =>
    (service.standing turn position).bind ((service.turn turn).standings rest)

/-- The last turn of a run moves where the others led. -/
theorem standings_concat (service : Service) (turns : List Turn) (turn : Turn)
    (position : Nat) :
    service.standings (turns ++ [turn]) position =
      (service.standings turns position).bind ((service.run turns).standing turn) := by
  induction turns generalizing service position with
  | nil => exact Option.bind_fun_some _
  | cons first rest ih =>
    simp only [List.cons_append, standings, Option.bind_assoc]
    exact congrArg _ (funext fun next => ih _ next)

variable {service : Service} {turn : Turn} {position next : Nat}

/-- An operation that did not go on waits for what it waited for. -/
theorem getElem?_standing (h : service.standing turn position = some next) :
    (service.turn turn).waiting[next]? = service.waiting[position]? := by
  rw [waiting_turn]
  unfold standing at h
  split at h
  · rename_i hnone
    cases h
    rw [hnone, List.getElem?_append_right (Nat.le_add_right _ _), Nat.add_sub_cancel_left]
    rfl
  · rename_i answered hsome
    split at h
    · cases h
    · cases h
      rw [hsome, List.getElem?_append_right (Nat.le_add_right _ _), Nat.add_sub_cancel_left,
        Option.map_some, Option.getD_some, List.getElem?_eraseIdx]
      split
      · rfl
      · rw [if_neg (by omega), Nat.sub_add_cancel (by omega)]

theorem getElem?_standings {turns : List Turn}
    (h : service.standings turns position = some next) :
    (service.run turns).waiting[next]? = service.waiting[position]? := by
  induction turns generalizing service position with
  | nil =>
    cases h
    rfl
  | cons turn rest ih =>
    obtain ⟨middle, hmiddle, hrest⟩ := Option.bind_eq_some_iff.mp h
    exact (ih hrest).trans (getElem?_standing hmiddle)

/-- Newcomers stand before the others. -/
theorem le_standing (h : service.standing turn position = some next) :
    (service.newcomers turn).length ≤ next := by
  unfold standing at h
  split at h
  · cases h
    exact Nat.le_add_right _ _
  · split at h
    · cases h
    · cases h
      exact Nat.le_add_right _ _

/-- An operation that does not go on stands somewhere. -/
theorem exists_standing (h : service.answered? turn ≠ some position) :
    ∃ next, service.standing turn position = some next := by
  unfold standing
  split
  · exact ⟨_, rfl⟩
  · rename_i answered hsome
    have hne : position ≠ answered := fun he => h (by rw [hsome, he])
    exact ⟨_, if_neg hne⟩

/-- Different operations stand at different positions. -/
theorem standing_ne {other other' : Nat} (h : service.standing turn position = some next)
    (h' : service.standing turn other = some other') (hne : other ≠ position) :
    other' ≠ next := by
  unfold standing at h h'
  cases hanswered : service.answered? turn with
  | none =>
    simp only [hanswered, Option.some.injEq] at h h'
    omega
  | some answered =>
    simp only [hanswered, Option.ite_none_left_eq_some, Option.some.injEq] at h h'
    obtain ⟨hout, h⟩ := h
    obtain ⟨hout', h'⟩ := h'
    split at h <;> split at h' <;> omega

end Service

end MediaGrid
