import Mathlib.Data.List.Perm.Basic
import MediaGrid.Proofs.Store.Service
import MediaGrid.Session.Basic

/-!
# Sessions are runs of the service

A session decides by itself when a waiting operation gets its answer: calls are held back,
pass a gate, and are answered by the collection, and one step may answer several operations
one after the other. Whatever it does, its store and its waiting operations are those of a
service after some turns. So what holds after every run of the service holds of every
session. The calls that were made, the channel and the window are no part of it.
-/

namespace MediaGrid

namespace Service

/-- Some turns lead a service to a store, with the given operations waiting. -/
def Leads (service : Service) (store : Store) (waiting : List Pending) : Prop :=
  ∃ turns, (service.run turns).store = store ∧ (service.run turns).waiting.Perm waiting

variable {service : Service} {store : Store} {waiting : List Pending}

theorem leads_refl (service : Service) : service.Leads service.store service.waiting :=
  ⟨[], rfl, .refl _⟩

theorem Leads.perm (h : service.Leads store waiting) {others : List Pending}
    (hperm : waiting.Perm others) : service.Leads store others := by
  obtain ⟨turns, hstore, hwaiting⟩ := h
  exact ⟨turns, hstore, hwaiting.trans hperm⟩

/-- One more turn leads further. -/
theorem Leads.turn (h : service.Leads store waiting) {store' : Store} {waiting' : List Pending}
    (hturn : ∀ middle : Service, middle.store = store → middle.waiting.Perm waiting →
      ∃ turn, (middle.turn turn).store = store' ∧ (middle.turn turn).waiting.Perm waiting') :
    service.Leads store' waiting' := by
  obtain ⟨turns, hstore, hwaiting⟩ := h
  obtain ⟨turn, hstore', hwaiting'⟩ := hturn _ hstore hwaiting
  refine ⟨turns ++ [turn], ?_⟩
  rw [run_concat]
  exact ⟨hstore', hwaiting'⟩

theorem Leads.obey (h : service.Leads store waiting) (command : Command) :
    service.Leads (store.obey command) waiting :=
  h.turn fun _ hstore hwaiting =>
    ⟨.command command, congrArg (Store.obey · command) hstore, hwaiting⟩

theorem Leads.begin (h : service.Leads store waiting) (operation : Operation) :
    service.Leads (store.begin operation).1 ((store.begin operation).2.pendings ++ waiting) := by
  refine h.turn fun middle hstore hwaiting => ⟨.start operation, ?_⟩
  simp only [Service.turn, hstore]
  exact ⟨trivial, hwaiting.append_left _⟩

/-- An operation that waits is somewhere among those of the service, and can be answered. -/
theorem Leads.answer {pending : Pending} {others : List Pending}
    (h : service.Leads store (pending :: others)) {reply : Reply} {result : Store × Progress}
    (hresume : store.resume pending reply = some result) :
    service.Leads result.1 (result.2.pendings ++ others) := by
  refine h.turn fun middle hstore hwaiting => ?_
  have hm : pending ∈ middle.waiting := hwaiting.mem_iff.mpr List.mem_cons_self
  obtain ⟨position, hlt, hposition⟩ := List.mem_iff_getElem.mp hm
  have herase : (middle.waiting.eraseIdx position).Perm others := by
    have hcons := (List.getElem_cons_eraseIdx_perm hlt).trans hwaiting
    rw [hposition] at hcons
    exact hcons.cons_inv
  refine ⟨.answer position reply, ?_⟩
  simp only [Service.turn, List.getElem?_eq_getElem hlt, hposition, hstore, hresume]
  exact ⟨trivial, herase.append_left _⟩

end Service

namespace Session

/-! ## What moves calls leaves the work alone -/

/-- The store and the waiting tasks are the same. -/
structure SameWork (before after : Session) : Prop where
  /-- The store. -/
  store : after.store = before.store
  /-- The tasks. -/
  tasks : after.tasks = before.tasks

theorem SameWork.trans {before middle after : Session} (h : before.SameWork middle)
    (h' : middle.SameWork after) : before.SameWork after :=
  ⟨h'.store.trans h.store, h'.tasks.trans h.tasks⟩

theorem sameWork_makeCall (session : Session) (call : Call) :
    session.SameWork (session.makeCall call).2 := by
  unfold makeCall
  split <;> exact ⟨rfl, rfl⟩

theorem sameWork_enterGate (session : Session) (ref : Artifact) (facet : ByteFacet) :
    session.SameWork (session.enterGate ref facet).2 := by
  unfold enterGate
  dsimp only
  split
  · exact ⟨rfl, rfl⟩
  · split <;> exact ⟨rfl, rfl⟩

theorem sameWork_moveIn (session : Session) (transit : Transit) :
    session.SameWork (session.moveIn transit).2 := by
  unfold moveIn
  split
  · exact session.sameWork_enterGate _ _
  · split <;> exact ⟨rfl, rfl⟩
  · split <;> exact ⟨rfl, rfl⟩
  · exact ⟨rfl, rfl⟩

theorem sameWork_moveOut (session : Session) (transit : Transit) :
    session.SameWork (session.moveOut transit).2 := by
  unfold moveOut
  split <;> exact ⟨rfl, rfl⟩

theorem sameWork_moveEach {α : Type} {move : Session → α → Transit × Session}
    (hmove : ∀ session call, SameWork session (move session call).2) (session : Session)
    (calls : List α) : session.SameWork (moveEach move session calls).2 := by
  induction calls generalizing session with
  | nil => exact ⟨rfl, rfl⟩
  | cons call rest ih => exact (hmove session call).trans (ih _)

theorem sameWork_moveCalls (session : Session) (calls : List Transit) :
    session.SameWork (session.moveCalls calls).2 :=
  (sameWork_moveEach sameWork_moveIn session calls).trans
    (sameWork_moveEach sameWork_moveOut _ _)

/-! ## Tasks -/

/-- What is left to wait for of a task that ran. -/
def remains : Task ⊕ Answer → List Pending
  | .inl task => [task.pending]
  | .inr _ => []

variable {service : Service}

/-- A task that runs as far as it gets takes the turns of its answers. -/
theorem advance_leads (fuel : Nat) (session : Session) (task : Task) {others : List Pending}
    (h : service.Leads session.store (task.pending :: others)) :
    service.Leads (session.advance fuel task).2.store
        (remains (session.advance fuel task).1 ++ others) ∧
      (session.advance fuel task).2.tasks = session.tasks := by
  induction fuel generalizing session task with
  | zero => exact ⟨h, rfl⟩
  | succ fuel ih =>
    have hmoved := session.sameWork_moveCalls task.calls
    rw [← hmoved.store] at h
    simp only [advance]
    split
    · exact ⟨h, hmoved.tasks⟩
    · rename_i store result hresume
      obtain ⟨reply, -, hresume⟩ := Option.bind_eq_some_iff.mp hresume
      exact ⟨h.answer hresume, hmoved.tasks⟩
    · rename_i store pending hresume
      obtain ⟨reply, -, hresume⟩ := Option.bind_eq_some_iff.mp hresume
      have hmade := sameWork_moveEach sameWork_makeCall
        { (session.moveCalls task.calls).2 with store } pending.calls
      have hnext := h.answer hresume
      rw [← show _ = store from hmade.store] at hnext
      obtain ⟨hleads, htasks⟩ := ih _ { task with pending, calls := _ } hnext
      exact ⟨hleads, htasks.trans (hmade.tasks.trans hmoved.tasks)⟩

theorem run_leads (session : Session) (task : Task) {others : List Pending}
    (h : service.Leads session.store (task.pending :: others)) :
    service.Leads (session.run task).2.store (remains (session.run task).1 ++ others) ∧
      (session.run task).2.tasks = session.tasks :=
  advance_leads _ session task h

/-- A service leads to the store of a session, with its tasks waiting. -/
def Follows (session : Session) (service : Service) : Prop :=
  service.Leads session.store (session.tasks.map (·.pending))

/-- An operation that starts is one turn, and its answers are further turns. -/
theorem follows_start {session : Session} (h : session.Follows service) (operation : Operation)
    (scroll : Option (List ItemId × List ItemId)) :
    (session.start operation scroll).2.Follows service := by
  have hbegin := Service.Leads.begin h operation
  unfold start
  dsimp only
  split
  · rename_i hprogress
    rw [hprogress] at hbegin
    exact hbegin
  · rename_i pending hprogress
    rw [hprogress] at hbegin
    have hmade := sameWork_moveEach sameWork_makeCall
      { session with
        store := (session.store.begin operation).1
        nextTask := session.nextTask + 1 } pending.calls
    rw [← show _ = (session.store.begin operation).1 from hmade.store] at hbegin
    obtain ⟨hleads, htasks⟩ := run_leads _ ⟨session.nextTask, pending, _, scroll⟩ hbegin
    have hsame := htasks.trans hmade.tasks
    split
    · rename_i hrun
      rw [hrun] at hleads hsame
      rw [Follows, show _ = session.tasks from hsame]
      exact hleads
    · rename_i task _ hrun
      rw [hrun] at hleads hsame
      dsimp only [Follows]
      rw [show _ = session.tasks from hsame, List.map_append]
      have hperm : ([task.pending] ++ session.tasks.map (·.pending)).Perm
          (session.tasks.map (·.pending) ++ [task.pending]) := List.perm_append_comm
      exact hleads.perm hperm

/-- Tasks that run in order take the turns of their answers. -/
theorem runTasks_leads (session : Session) (tasks : List Task) {others : List Pending}
    (h : service.Leads session.store (tasks.map (·.pending) ++ others)) :
    service.Leads (session.runTasks tasks).2.2.store
      ((session.runTasks tasks).2.1.map (·.pending) ++ others) := by
  induction tasks generalizing session others with
  | nil => exact h
  | cons task rest ih =>
    obtain ⟨hleads, -⟩ := session.run_leads task h
    -- What is left of the task waits behind the tasks that are still to run.
    have hbehind : (remains (session.run task).1 ++ (rest.map (·.pending) ++ others)).Perm
        (rest.map (·.pending) ++ (remains (session.run task).1 ++ others)) := by
      rw [← List.append_assoc, ← List.append_assoc]
      exact List.perm_append_comm.append_right others
    have hrest := ih _ (hleads.perm hbehind)
    simp only [runTasks]
    split
    · rename_i answer hanswer
      rw [hanswer] at hrest
      exact hrest
    · rename_i waiting hwaiting
      rw [hwaiting] at hrest
      exact hrest.perm List.perm_middle

theorem follows_resumeAll {session : Session} (h : session.Follows service) :
    session.resumeAll.2.Follows service := by
  have htasks : session.tasks.map (·.pending) ++ [] = session.tasks.map (·.pending) :=
    List.append_nil _
  rw [Follows, ← htasks] at h
  have hrun := session.runTasks_leads session.tasks h
  rw [List.append_nil] at hrun
  exact hrun

/-- A step that resumes no task is one turn, none, or the start of an operation. -/
theorem follows_act {session : Session} (h : session.Follows service) (step : Step) :
    (session.act step).2.Follows service := by
  have hobey : ∀ command, ({ session with store := session.store.obey command } :
      Session).Follows service := fun command => Service.Leads.obey h command
  cases step with
  | add refs => exact hobey (.add refs)
  | clear keepQuery => exact hobey (.clear keepQuery)
  | unload facet ids => exact hobey (.unload facet ids)
  | mark ids value => exact hobey (.mark ids value)
  | dialog isOpen => exact hobey (.dialog isOpen)
  | showVideo id => exact hobey (.showVideo Collection.videoLinks? id)
  | hideVideo id => exact hobey (.hideVideo id)
  | typeSearch search => exact hobey (.typeSearch search)
  | pick completion => exact hobey (.pick completion)
  | start operation => exact follows_start h operation none
  | scroll viewport row rebuild =>
    have hview : ∀ view, ({ session with view := view } : Session).Follows service :=
      fun _ => h
    exact follows_start (hview _) _ _
  | release number how =>
    simp only [act, releaseCall, Follows, List.map_map]
    exact h
  | _ => exact h

/-- Every step of a session takes some turns. -/
theorem follows_step {session : Session} (h : session.Follows service) (step : Step) :
    (session.step step).2.Follows service := by
  have hact := follows_act h step
  simp only [Session.step]
  split
  · exact follows_resumeAll hact
  · exact hact

/-- Whatever steps a session takes, it is where a service is after some turns. -/
theorem follows_steps {config : Config} {collection : Collection} {session : Session}
    (h : ofConfig config collection = .ok session) (steps : List Step) :
    (steps.foldl (fun session step => (session.step step).2) session).Follows
      (.fresh session.store.config Uuid.supply) := by
  have hfresh : session.Follows (.fresh session.store.config Uuid.supply) := by
    cases hchecked : config.checked with
    | error failure => simp [ofConfig, Store.ofConfig, hchecked, Except.map] at h
    | ok config =>
      simp only [ofConfig, Store.ofConfig, hchecked, Except.map, Except.ok.injEq] at h
      subst h
      exact Service.leads_refl _
  generalize Service.fresh session.store.config Uuid.supply = service at hfresh ⊢
  clear h
  induction steps generalizing session with
  | nil => exact hfresh
  | cons step rest ih => exact ih (follows_step hfresh step)

end Session

end MediaGrid
