import MediaGrid.Proofs.Grid.Lending
import MediaGrid.Proofs.Store.Alone

/-!
# Operations that are answered to their end

An operation is begun and answered until it ends, and the calls that it makes on the way are kept.
Any answers will do that fit, from a backend that may refuse, and nothing else happens meanwhile.
Each answer leaves fewer to come, so the operation ends, and it does so in one way. The calls of a
load are fixed when it begins: they depend on what it claims and not on what is answered.
-/

namespace MediaGrid

namespace Store

/-- An operation is answered until it ends: the calls that it makes on the way, those made at once
together, and what it leaves and returns. -/
inductive Completes (answer : Pending → Reply) :
    Store × Progress → List (List Call) → Store → Except Failure Outcome → Prop where
  /-- It has ended. -/
  | ended (store : Store) (result : Except Failure Outcome) :
    Completes answer (store, .done result) [] store result
  /-- It waits for its calls and goes on with the answer. -/
  | answered {store : Store} {pending : Pending} {next : Store × Progress}
      {calls : List (List Call)} {after : Store} {result : Except Failure Outcome}
      (hnext : store.resume pending (answer pending) = some next)
      (hrest : Completes answer next calls after result) :
    Completes answer (store, .waiting pending) (pending.calls :: calls) after result

variable {answer : Pending → Reply} {state : Store × Progress} {calls : List (List Call)}
  {store before after : Store} {result : Except Failure Outcome}

/-- An operation that is answered ends in one way. -/
theorem Completes.unique {calls' : List (List Call)} {after' : Store}
    {result' : Except Failure Outcome} (h : Completes answer state calls after result)
    (h' : Completes answer state calls' after' result') :
    calls' = calls ∧ after' = after ∧ result' = result := by
  induction h generalizing calls' with
  | ended store result =>
    cases h'
    exact ⟨rfl, rfl, rfl⟩
  | answered hnext _ ih =>
    cases h' with
    | answered hnext' hrest' =>
      rw [hnext] at hnext'
      cases hnext'
      obtain ⟨rfl, rfl, rfl⟩ := ih hrest'
      exact ⟨rfl, rfl, rfl⟩

/-- An operation whose calls are all answered ends. -/
theorem exists_completes (hfits : ∀ pending : Pending, pending.Accepts (answer pending))
    (state : Store × Progress) :
    ∃ calls after result, Completes answer state calls after result := by
  obtain ⟨store, progress⟩ := state
  cases progress with
  | done result => exact ⟨[], store, result, .ended store result⟩
  | waiting pending =>
    -- Each answer leaves fewer to come.
    induction hrounds : pending.rounds using Nat.strong_induction_on generalizing store pending with
    | _ rounds ih =>
      obtain ⟨next, hnext⟩ := store.exists_resume (hfits pending)
      obtain ⟨middle, progress⟩ := next
      cases progress with
      | done result => exact ⟨_, middle, result, .answered hnext (.ended middle result)⟩
      | waiting other =>
        have hless := rounds_resume hnext (List.mem_singleton.mpr rfl)
        obtain ⟨calls, after, result, hrest⟩ := ih other.rounds (hrounds ▸ hless) middle other rfl
        exact ⟨_, after, result, .answered hnext hrest⟩

/-- An operation that waits makes a call. -/
theorem Completes.calls_ne_nil (h : Completes answer state calls after result)
    (hwaits : state.2.pendings ≠ []) : calls ≠ [] := by
  cases h with
  | ended => exact absurd rfl hwaits
  | answered => exact List.cons_ne_nil _ _

/-- An operation that ends with its next answer makes no more calls. -/
theorem Completes.of_last {pending : Pending} {last : Store} {outcome : Except Failure Outcome}
    (h : Completes answer (store, .waiting pending) calls after result)
    (hlast : store.resume pending (answer pending) = some (last, .done outcome)) :
    calls = [pending.calls] ∧ after = last ∧ result = outcome := by
  have hends : Completes answer (store, .waiting pending) [pending.calls] last outcome :=
    .answered hlast (.ended last outcome)
  exact hends.unique h

end Store

/-- Whether an operation claims what is missing and does no more than load it. -/
def Operation.isLoad : Operation → Bool
  | .describe _ => true
  | .thumbnails _ _ => true
  | .image _ => true
  | _ => false

namespace Store

variable {answer : Pending → Reply} {calls : List (List Call)} {store after : Store}
  {result : Except Failure Outcome}

/-! ## The calls of loads -/

/-- The fetches of some claims, those of a chunk together. -/
def fetchesOf (facet : ByteFacet) (size : Nat) (targets : List (Claim × Artifact)) :
    List (List Call) :=
  (Collection.chunks size targets).map fun chunk => chunk.map fun target => .fetch target.2 facet

/-- The calls that a load makes. -/
def loadCalls (store : Store) : Operation → List (List Call)
  | .describe ids =>
    if (store.grid.claimRecords ids).1.isEmpty then []
    else [[.readRecords ((store.grid.claimRecords ids).1.map (·.2))]]
  | .thumbnails ids chunk => fetchesOf .thumbnail chunk (store.grid.claimAll .thumbnail ids).1
  | .image id =>
    if store.grid.contains id then fetchesOf .full 1 (store.grid.claimAll .full [id]).1 else []
  | _ => []

/-- A chunk has at least one claim. -/
theorem nextChunk_cons (store : Store) (facet : ByteFacet) (size : Nat)
    (chunk : List (Claim × Artifact)) (target : Claim × Artifact)
    (rest : List (Claim × Artifact)) (summary : LoadTally) :
    store.nextChunk ⟨facet, size, chunk, target :: rest, summary⟩ = (store, .waiting (.contents
      ⟨facet, size, target :: rest.take (size - 1), rest.drop (size - 1), summary⟩)) := by
  have hsize : max 1 size = size - 1 + 1 := by omega
  simp only [nextChunk, List.isEmpty_cons, Bool.false_eq_true, if_false, hsize,
    List.take_succ_cons, List.drop_succ_cons]

/-- A load fetches its claims chunk by chunk, whatever is answered. -/
theorem Completes.calls_nextChunk {facet : ByteFacet} {size : Nat}
    {chunk targets : List (Claim × Artifact)} {summary : LoadTally}
    (h : Completes answer (store.nextChunk ⟨facet, size, chunk, targets, summary⟩) calls after
      result) : calls = fetchesOf facet size targets := by
  induction targets using Collection.chunks.induct size generalizing store chunk summary calls with
  | case1 =>
    cases h
    rw [fetchesOf, Collection.chunks, List.map_nil]
  | case2 target rest ih =>
    rw [nextChunk_cons] at h
    cases h with
    | answered hnext hrest =>
      generalize answer _ = reply at hnext
      cases resumes_of_eq_some hnext with
      | contents load outcomes hlength =>
        rw [ih hrest, fetchesOf, fetchesOf, Collection.chunks, List.map_cons]
        rfl

/-- A load makes its calls, whatever is answered. -/
theorem Completes.calls_of_load {operation : Operation} {state : Store × Progress}
    (hbegins : store.Begins operation state) (hload : operation.isLoad)
    (h : Completes answer state calls after result) : calls = store.loadCalls operation := by
  cases hbegins with
  | declined operation outcome hdeclines =>
    cases h
    cases operation with
    | describe ids => exact (if_pos hdeclines).symm
    | image id => exact (if_neg hdeclines).symm
    | thumbnails ids chunk => exact hdeclines.elim
    | _ => cases hload
  | describe ids hsome =>
    rw [loadCalls, if_neg hsome]
    cases h with
    | answered hnext hrest =>
      generalize answer _ = reply at hnext
      cases resumes_of_eq_some hnext <;> cases hrest <;> rfl
  | thumbnails ids chunk => exact h.calls_nextChunk
  | image id hin =>
    rw [loadCalls, if_pos hin]
    exact h.calls_nextChunk
  | _ => cases hload

/-- The fetches of claims do not depend on their tickets. -/
theorem fetchesOf_unticketed (facet : ByteFacet) (size : Nat) (targets : List (Claim × Artifact)) :
    fetchesOf facet size (targets.map unticketed) = fetchesOf facet size targets := by
  induction targets using Collection.chunks.induct size with
  | case1 => rfl
  | case2 target rest ih =>
    rw [fetchesOf, fetchesOf] at ih
    rw [List.map_cons, fetchesOf, fetchesOf, Collection.chunks, Collection.chunks, List.map_cons,
      List.map_cons, ← List.map_drop, ih, ← List.map_take, List.map_cons, List.map_cons,
      List.map_map]
    rfl

/-- The calls of a load do not depend on the tickets that were given out. -/
theorem loadCalls_withTicket (store : Store) (ticket : Nat) (operation : Operation) :
    { store with grid := { store.grid with lastTicket := ticket } }.loadCalls operation =
      store.loadCalls operation := by
  have hfetches : ∀ facet size ids,
      fetchesOf facet size ({ store.grid with lastTicket := ticket }.claimAll facet ids).1 =
        fetchesOf facet size (store.grid.claimAll facet ids).1 := by
    intro facet size ids
    rw [← fetchesOf_unticketed, store.grid.claimAll_withTicket, fetchesOf_unticketed]
  cases operation with
  | describe ids => simp only [loadCalls, Grid.claimRecords_withTicket]
  | thumbnails ids chunk => exact hfetches .thumbnail chunk ids
  | image id =>
    simp only [loadCalls]
    rw [hfetches]
    rfl
  | _ => rfl

end Store

end MediaGrid
