import MediaGrid.Proofs.Session.Paging
import MediaGrid.Proofs.Session.Turns
import MediaGrid.Proofs.Store.Alone

/-!
# Sessions in which nothing overlaps

As long as nothing waits when the next step is taken, a session goes as its store does alone with
its collection. Calls may be held back and fetches may have to pass a gate, provided that every
operation is over within its step; then all its calls were answered by the collection, and at once.
-/

namespace MediaGrid

/-! ## Fetches made at once -/

/-- Replies to single fetches are put together. -/
theorem joinReplies_fetched (outcomes : List (Except Failure String)) :
    joinReplies (outcomes.map fun outcome => .fetched [outcome]) = some (.fetched outcomes) := by
  induction outcomes with
  | nil => rfl
  | cons outcome rest ih =>
    cases rest with
    | nil => rfl
    | cons next rest =>
      rw [List.map_cons] at ih ⊢
      rw [List.map_cons, joinReplies, ih]
      · rfl
      · nofun

/-- Each of the fetches that came out has its reply. -/
theorem mapM_fetched (outcomes : List (Except Failure String)) :
    (outcomes.map fun outcome => Transit.answered (.fetched [outcome])).mapM Transit.reply? =
      some (outcomes.map fun outcome => .fetched [outcome]) := by
  induction outcomes with
  | nil => rfl
  | cons outcome rest ih =>
    rw [List.map_cons, List.mapM_cons, ih]
    rfl

namespace Session

/-- A call was made: it was sent, or it is held back. -/
inductive Made (call : Call) : Transit → Prop where
  /-- It was sent. -/
  | sent : Made call (.sent call)
  /-- It is held back. -/
  | held (number : Nat) : Made call (.held number call)

/-- Making calls does not reach the collection. -/
theorem made_makeCalls (session : Session) (calls : List Call) :
    List.Forall₂ Made calls (moveEach makeCall session calls).1 ∧
      (moveEach makeCall session calls).2.collection = session.collection := by
  induction calls generalizing session with
  | nil => exact ⟨.nil, rfl⟩
  | cons call rest ih =>
    have hone : Made call (session.makeCall call).1 ∧
        (session.makeCall call).2.collection = session.collection := by
      unfold makeCall
      split
      · exact ⟨.held _, rfl⟩
      · exact ⟨.sent, rfl⟩
    obtain ⟨hmade, hsame⟩ := ih (session.makeCall call).2
    exact ⟨.cons hone.1 hmade, hsame.trans hone.2⟩

/-- A fetch that was made passes to the collection, or has no reply when it comes out. -/
theorem moveIn_made (session : Session) {ref : Artifact} {facet : ByteFacet} {transit : Transit}
    (h : Made (.fetch ref facet) transit) :
    ((session.moveIn transit).1 = .passed ref facet ∧
      (session.moveIn transit).2.collection = session.collection.arrive facet) ∨
    ∀ later : Session, (later.moveOut (session.moveIn transit).1).1.reply? = none := by
  cases h with
  | held number => exact Or.inr fun _ => rfl
  | sent =>
    simp only [moveIn, enterGate]
    split
    · exact Or.inl ⟨rfl, rfl⟩
    · split
      · exact Or.inl ⟨rfl, rfl⟩
      · exact Or.inr fun _ => rfl

/-- Where calls come out with replies, each of them has one. -/
theorem isSome_of_replies {session : Session} {transits : List Transit} {replies : List Reply}
    (h : (moveEach moveOut session transits).1.mapM Transit.reply? = some replies) :
    ∀ transit ∈ transits, ∃ later : Session, (later.moveOut transit).1.reply?.isSome := by
  induction transits generalizing session replies with
  | nil => exact fun _ hm => absurd hm List.not_mem_nil
  | cons head rest ih =>
    simp only [moveEach, List.mapM_cons, Option.bind_eq_bind, Option.bind_eq_some_iff] at h
    obtain ⟨reply, hreply, others, hothers, -⟩ := h
    intro transit hm
    rcases List.mem_cons.mp hm with rfl | hm
    · exact ⟨session, Option.isSome_iff_exists.mpr ⟨reply, hreply⟩⟩
    · exact ih hothers transit hm

/-- Fetches that all come out with replies all passed to the collection. -/
theorem moveIn_fetches (session : Session) (facet : ByteFacet) {refs : List Artifact}
    {transits : List Transit}
    (hmade : List.Forall₂ Made (refs.map (Call.fetch · facet)) transits)
    (hout : ∀ transit ∈ (moveEach moveIn session transits).1,
      ∃ later : Session, (later.moveOut transit).1.reply?.isSome) :
    (moveEach moveIn session transits).1 = refs.map (Transit.passed · facet) ∧
      (moveEach moveIn session transits).2.collection =
        refs.foldl (fun c _ => c.arrive facet) session.collection := by
  induction refs generalizing session transits with
  | nil =>
    cases hmade
    exact ⟨rfl, rfl⟩
  | cons ref rest ih =>
    obtain ⟨transit, others, hone, hothers, rfl⟩ := List.forall₂_cons_left_iff.mp hmade
    simp only [moveEach] at hout ⊢
    have hrest := ih (session.moveIn transit).2 hothers fun other hm =>
      hout other (List.mem_cons_of_mem _ hm)
    rcases session.moveIn_made hone with ⟨hpassed, harrived⟩ | hnone
    · rw [hpassed, hrest.1, hrest.2, harrived]
      exact ⟨rfl, rfl⟩
    · obtain ⟨later, hlater⟩ := hout _ List.mem_cons_self
      rw [hnone later] at hlater
      cases hlater

/-- Fetches that passed to the collection come out one after the other. -/
theorem moveOut_fetches (session : Session) (facet : ByteFacet) (refs : List Artifact) :
    let left := session.collection.leaveEach facet refs
    (moveEach moveOut session (refs.map (Transit.passed · facet))).1 =
        left.1.map (fun outcome => .answered (.fetched [outcome])) ∧
      (moveEach moveOut session (refs.map (Transit.passed · facet))).2.collection = left.2 := by
  induction refs generalizing session with
  | nil => exact ⟨rfl, rfl⟩
  | cons ref rest ih =>
    obtain ⟨hmoved, hleft⟩ :=
      ih { session with collection := (session.collection.leave ref facet).2 }
    refine ⟨?_, hleft⟩
    simp only [List.map_cons, moveEach, moveOut, Collection.leaveEach]
    rw [hmoved]

/-- Calls that were made and all have a reply got it from the collection. -/
theorem reply?_moveCalls (session : Session) {task : Task}
    (hmade : List.Forall₂ Made task.pending.calls task.calls) {reply : Reply}
    (h : Task.reply? { task with calls := (session.moveCalls task.calls).1 } = some reply) :
    session.collection.reply? task.pending =
      (some reply, (session.moveCalls task.calls).2.collection) := by
  obtain ⟨number, pending, transits, scroll⟩ := task
  dsimp only at hmade h ⊢
  obtain ⟨replies, hreplies, hjoined⟩ := Option.bind_eq_some_iff.mp h
  -- Anything but a load waits for a single call, which is no fetch.
  have hsingle : ∀ {call}, pending.calls = [call] →
      session.collection.reply? pending = session.collection.perform call →
      session.collection.reply? pending =
        (some reply, (session.moveCalls transits).2.collection) := by
    intro call hcalls hperform
    obtain ⟨own, after, hown⟩ := session.collection.exists_reply? pending
    rw [hcalls] at hmade
    obtain ⟨transit, others, hone, hothers, rfl⟩ := List.forall₂_cons_left_iff.mp hmade
    cases hothers
    cases hone with
    | held number => cases hreplies
    | sent =>
      rw [moveCalls_sent (hperform.symm.trans hown)] at hreplies ⊢
      cases hreplies
      cases hjoined
      exact hown
  cases pending with
  | contents load =>
    have hcalls : (Pending.contents load).calls =
        (load.chunk.map (·.2)).map (Call.fetch · load.facet) := by
      rw [List.map_map]
      rfl
    rw [hcalls] at hmade
    simp only [moveCalls] at hreplies ⊢
    obtain ⟨hpassed, harrived⟩ :=
      session.moveIn_fetches load.facet hmade (isSome_of_replies hreplies)
    obtain ⟨hmoved, hleft⟩ :=
      (moveEach moveIn session transits).2.moveOut_fetches load.facet (load.chunk.map (·.2))
    rw [hpassed] at hreplies ⊢
    rw [hmoved, mapM_fetched, Option.some.injEq] at hreplies
    rw [← hreplies, joinReplies_fetched, Option.some.injEq] at hjoined
    rw [hleft, harrived, ← hjoined, harrived, ← Collection.fetchAll_eq]
    rfl
  | page run => exact hsingle rfl rfl
  | _ => exact hsingle rfl rfl

/-! ## Operations that are over within their step -/

/-- The store of a session and its collection, with an operation under way or none. -/
def solo (session : Session) (waiting : Option Pending) : Solo :=
  ⟨session.store, session.collection, waiting⟩

/-- The moves of a store alone with its collection lead from one session to another. -/
def GoesAlone (session : Session) (waiting : Option Pending) (final : Session) : Prop :=
  ∃ moves, (session.solo waiting).run moves = final.solo none

theorem goesAlone_refl (session : Session) : session.GoesAlone none session := ⟨[], rfl⟩

/-- One more move comes first. -/
theorem GoesAlone.cons {session middle final : Session} {waiting next : Option Pending}
    (h : middle.GoesAlone next final) (move : Solo.Move)
    (hmove : (session.solo waiting).move move = middle.solo next) :
    session.GoesAlone waiting final := by
  obtain ⟨moves, hmoves⟩ := h
  refine ⟨move :: moves, ?_⟩
  rw [← hmoves, ← hmove]
  rfl

theorem GoesAlone.trans {session middle final : Session} {waiting : Option Pending}
    (h : session.GoesAlone waiting middle) (h' : middle.GoesAlone none final) :
    session.GoesAlone waiting final := by
  obtain ⟨moves, hmoves⟩ := h
  obtain ⟨more, hmore⟩ := h'
  refine ⟨moves ++ more, ?_⟩
  rw [Solo.run_append, hmoves]
  exact hmore

/-- A task that runs to its end is answered by the collection. -/
theorem advance_alone (fuel : Nat) (session : Session) (task : Task)
    (hmade : List.Forall₂ Made task.pending.calls task.calls) {answer : Answer} {final : Session}
    (h : session.advance fuel task = (.inr answer, final)) :
    session.GoesAlone (some task.pending) final := by
  induction fuel generalizing session task with
  | zero => cases h
  | succ fuel ih =>
    have hsame := (session.sameWork_moveCalls task.calls).store
    -- The reply that the task goes on with is the one that the collection gives.
    have hmove : ∀ {store progress} {final : Session},
        (Task.reply? { task with calls := (session.moveCalls task.calls).1 } >>=
          (session.moveCalls task.calls).2.store.resume task.pending) = some (store, progress) →
        final.store = store → final.collection = (session.moveCalls task.calls).2.collection →
        (session.solo (some task.pending)).move .answer = final.solo progress.pendings.head? := by
      intro store progress final hanswered hstore hcollection
      obtain ⟨reply, hreply, hresume⟩ := Option.bind_eq_some_iff.mp hanswered
      rw [hsame] at hresume
      have hfinal : final.solo progress.pendings.head? =
          ⟨store, (session.moveCalls task.calls).2.collection, progress.pendings.head?⟩ := by
        rw [solo, hstore, hcollection]
      have hwaiting : (session.solo (some task.pending)).waiting = some task.pending := rfl
      rw [hfinal]
      exact Solo.move_answer hwaiting (session.reply?_moveCalls hmade hreply) hresume
    rw [advance] at h
    dsimp only at h
    split at h
    · cases h
    · rename_i store result hanswered
      cases h
      exact (goesAlone_refl _).cons .answer (hmove hanswered rfl rfl)
    · rename_i store next hanswered
      obtain ⟨hnext, hreached⟩ :=
        made_makeCalls { (session.moveCalls task.calls).2 with store } next.calls
      have hrest := ih _ { task with pending := next, calls := _ } hnext h
      refine hrest.cons .answer (hmove hanswered ?_ hreached)
      exact (sameWork_moveEach sameWork_makeCall _ _).store

/-- An operation that leaves nothing waiting was started and answered to its end. -/
theorem start_alone {session : Session} {operation : Operation}
    {scroll : Option (List ItemId × List ItemId)}
    (h : (session.start operation scroll).2.tasks = []) :
    session.GoesAlone none (session.start operation scroll).2 := by
  unfold start at h ⊢
  dsimp only at h ⊢
  have hbegun : ∀ {middle : Session}, middle.store = (session.store.begin operation).1 →
      middle.collection = session.collection → (session.solo none).move (.start operation) =
        middle.solo (session.store.begin operation).2.pendings.head? := by
    intro middle hstore hcollection
    rw [solo, solo, hstore, hcollection]
    rfl
  split at h
  · rename_i result hprogress
    rw [hprogress] at hbegun
    exact (goesAlone_refl _).cons (.start operation) (hbegun rfl rfl)
  · rename_i pending hprogress
    rw [hprogress] at hbegun
    obtain ⟨hmade, hreached⟩ := made_makeCalls { session with
      store := (session.store.begin operation).1
      nextTask := session.nextTask + 1 } pending.calls
    have hsame := (sameWork_moveEach sameWork_makeCall { session with
      store := (session.store.begin operation).1
      nextTask := session.nextTask + 1 } pending.calls).store
    split at h
    · rename_i answer final hrun
      exact (advance_alone _ _ _ hmade hrun).cons (.start operation) (hbegun hsame hreached)
    · exact absurd h (List.append_ne_nil_of_right_ne_nil _ (List.cons_ne_nil _ _))

/-! ## Steps -/

/-- Nothing waits once each of the steps was taken. -/
def OneByOne (session : Session) : List Step → Prop
  | [] => True
  | step :: rest => (session.step step).2.tasks = [] ∧ OneByOne (session.step step).2 rest

/-- Where nothing waits there is nothing to resume. -/
theorem resumeAll_of_none {session : Session} (htasks : session.tasks = []) :
    session.resumeAll = ([], { session with tasks := [] }) := by
  rw [resumeAll, htasks]
  rfl

/-- A step that leaves nothing waiting did all it does when it was taken. -/
theorem tasks_act {session : Session} (htasks : session.tasks = []) {step : Step}
    (h : (session.step step).2.tasks = []) : (session.act step).2.tasks = [] := by
  cases step with
  | release number how => simp only [act, releaseCall, htasks, List.map_nil]
  | permits count => exact htasks
  | _ => exact h

/-- A step that leaves nothing waiting is a move of the store alone with its collection, or
several, or none. -/
theorem act_alone {session : Session} {step : Step} (h : (session.act step).2.tasks = []) :
    session.GoesAlone none (session.act step).2 := by
  cases step with
  | add refs => exact ⟨[.command (.add refs)], rfl⟩
  | clear keepQuery => exact ⟨[.command (.clear keepQuery)], rfl⟩
  | unload facet ids => exact ⟨[.command (.unload facet ids)], rfl⟩
  | mark ids value => exact ⟨[.command (.mark ids value)], rfl⟩
  | dialog isOpen => exact ⟨[.command (.dialog isOpen)], rfl⟩
  | showVideo id => exact ⟨[.command (.showVideo Collection.videoLinks? id)], rfl⟩
  | hideVideo id => exact ⟨[.command (.hideVideo id)], rfl⟩
  | typeSearch search => exact ⟨[.command (.typeSearch search)], rfl⟩
  | pick completion => exact ⟨[.command (.pick completion)], rfl⟩
  | fail point => exact ⟨[.fail point], rfl⟩
  | recover point => exact ⟨[.recover point], rfl⟩
  | insert ref record => exact ⟨[.insert ref record], rfl⟩
  | start operation => exact start_alone h
  | scroll viewport row rebuild => exact start_alone h
  | _ => exact ⟨[], rfl⟩

theorem step_alone {session : Session} (htasks : session.tasks = []) {step : Step}
    (h : (session.step step).2.tasks = []) : session.GoesAlone none (session.step step).2 := by
  have hact := tasks_act htasks h
  obtain ⟨moves, hmoves⟩ := act_alone hact
  refine ⟨moves, hmoves.trans ?_⟩
  simp only [Session.step, resumeAll_of_none hact]
  split <;> rfl

/-- A session in which nothing waits after each step is one that its store reaches alone with its
collection, so what holds of every store alone with its collection holds of it. -/
theorem goesAlone_steps {session : Session} (htasks : session.tasks = []) {steps : List Step}
    (h : session.OneByOne steps) :
    session.GoesAlone none (steps.foldl (fun session step => (session.step step).2) session) := by
  induction steps generalizing session with
  | nil => exact goesAlone_refl session
  | cons step rest ih => exact (step_alone htasks h.1).trans (ih h.1 h.2)

end Session

end MediaGrid
