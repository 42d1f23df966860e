import Mathlib.Data.List.Induction
import MediaGrid.Proofs.Store.Fetches
import MediaGrid.Proofs.Window.Crossings

/-!
# Thumbnails that follow a view

A gallery is a store with a view over its ids. The window is followed or built anew at any time,
and its changes are fed to the store in their order, each as one operation that drops the
thumbnails of what left and loads those of what came in. Between two changes the store does
anything else but load thumbnails, and fetches that are under way end in any order and in any way.

An exit drops a thumbnail that is there. It does not call back the fetch of one that is still
loading, which fills the slot when it ends. So every thumbnail belongs to an item of the window,
or to one that left while its thumbnail was being fetched. Where no fetch is under way when a
change is fed, there are none of these.
-/

namespace MediaGrid

/-- What happens to a gallery. -/
inductive GalleryStep where
  /-- The viewport moves or changes its extent. -/
  | scroll (viewport : Viewport)
  /-- The view is told of ids in front. -/
  | reportPrepended (count : Nat)
  /-- The window is brought up to date. -/
  | follow (shows : Bounds → ItemId → Bool)
  /-- The window is built anew. -/
  | rebuild (shows : Bounds → ItemId → Bool)
  /-- The store is given the next change of the window. -/
  | feed
  /-- The store does something else. -/
  | other (turn : Turn)

/-- The store does nothing else that loads thumbnails. -/
def GalleryStep.LoadsNone : GalleryStep → Prop
  | .other turn => turn.facet? ≠ some .thumbnail
  | _ => True

/-- A store whose thumbnails follow a view over its ids. -/
structure Gallery where
  /-- The store with the operations that wait. -/
  service : Service
  /-- The view. -/
  view : ScrollView ItemId
  /-- The changes of the window that the store was not given yet, in their order. -/
  changes : List (List (Crossing ItemId))
  /-- What the store was given of the changes. -/
  fed : List (Crossing ItemId)
  /-- The ids whose last exit was fed while their thumbnail was being fetched. -/
  overtaken : Finset ItemId

namespace Gallery

/-- A gallery with a new store and a view that was not brought up to date yet. -/
def fresh (config : Config) (draw : Nat → Uuid) (viewport : Viewport) (ratio : Float) : Gallery :=
  ⟨.fresh config draw, .ofViewport viewport ratio, [], [], ∅⟩

/-- The loading state of a thumbnail. -/
def stage (state : Gallery) (id : ItemId) : LoadStage :=
  (state.service.store.grid.slotAt id .thumbnail).status

/-- The gallery after the window has changed. -/
def look (state : Gallery) (result : ScrollView ItemId × List (Crossing ItemId)) : Gallery :=
  { state with view := result.1, changes := state.changes ++ [result.2] }

/-- The gallery once the store was given a change. -/
def give (state : Gallery) (change : List (Crossing ItemId)) : Gallery :=
  { state with
    service := state.service.turn
      (.start (.followScroll (Window.enteredOf change) (Window.exitedOf change)))
    fed := state.fed ++ change
    overtaken := state.overtaken \ (change.map Crossing.item).toFinset ∪
      (Window.exitedOf change).toFinset.filter fun id => state.stage id = .loading }

/-- The gallery after a step. -/
def step (state : Gallery) : GalleryStep → Gallery
  | .scroll viewport => { state with view := { state.view with viewport := viewport } }
  | .reportPrepended count =>
    { state with view := { state.view with window := state.view.window.shifted count } }
  | .follow shows =>
    state.look (state.view.follow (state.service.store.grid.ids.map some) shows)
  | .rebuild shows =>
    state.look (state.view.rebuild (state.service.store.grid.ids.map some) shows)
  | .feed =>
    match state.changes with
    | [] => state
    | change :: rest => { state.give change with changes := rest }
  | .other turn => { state with service := state.service.turn turn }

/-- The gallery after steps taken one after the other. -/
def run (state : Gallery) (steps : List GalleryStep) : Gallery := steps.foldl step state

/-- The last step of a run comes on top. -/
theorem run_concat (state : Gallery) (steps : List GalleryStep) (last : GalleryStep) :
    state.run (steps ++ [last]) = (state.run steps).step last :=
  List.foldl_append

/-- Without a change nothing is fed. -/
theorem step_feed_nil {state : Gallery} (h : state.changes = []) : state.step .feed = state := by
  rw [step, h]

/-- The oldest change is fed. -/
theorem step_feed_cons {state : Gallery} {change : List (Crossing ItemId)}
    {rest : List (List (Crossing ItemId))} (h : state.changes = change :: rest) :
    state.step .feed = { state.give change with changes := rest } := by
  rw [step, h]

/-! ## Feeding a change -/

/-- A slot is empty exactly when its thumbnail is not loaded and not being loaded. -/
theorem stage_eq_notLoaded {state : Gallery} {id : ItemId} :
    state.stage id = .notLoaded ↔
      state.service.store.grid.slotAt id .thumbnail = .empty := by
  unfold stage
  cases state.service.store.grid.slotAt id .thumbnail <;> simp [ByteSlot.status]

/-- A thumbnail that is being loaded is fetched under a ticket. -/
theorem exists_ticket {state : Gallery} {id : ItemId} (h : state.stage id = .loading) :
    ∃ ticket, state.service.store.grid.slotAt id .thumbnail = .pending ticket := by
  unfold stage at h
  cases hslot : state.service.store.grid.slotAt id .thumbnail with
  | pending ticket => exact ⟨ticket, rfl⟩
  | empty =>
    rw [hslot] at h
    cases h
  | loaded handle =>
    rw [hslot] at h
    cases h

/-- The thumbnails of what left are dropped, and then those of what came in are claimed. -/
theorem grid_give (state : Gallery) (change : List (Crossing ItemId)) :
    (state.give change).service.store.grid =
      ((state.service.store.grid.unload .thumbnail (Window.exitedOf change)).2.claimAll .thumbnail
        (Window.enteredOf change)).2 := by
  have hload := ((state.service.store.unload .thumbnail (Window.exitedOf change)).2.load_eq
    .thumbnail (Window.enteredOf change) state.service.store.config.thumbnailChunk).1
  rw [← Store.grid_unload]
  exact congrArg Store.grid hload

/-- Where an item did not come in, its thumbnail is dropped if it left, and stays as it was if
not. -/
theorem slotAt_give (state : Gallery) (change : List (Crossing ItemId)) (id : ItemId)
    (h : id ∉ Window.enteredOf change) :
    (state.give change).service.store.grid.slotAt id .thumbnail =
      if id ∈ Window.exitedOf change then
        (state.service.store.grid.slotAt id .thumbnail).dropped
      else state.service.store.grid.slotAt id .thumbnail := by
  rw [grid_give, Grid.slotAt_claimAll (Or.inr h), Grid.slotAt_unload]
  simp only [true_and]

/-- A change calls no fetch back. -/
theorem stage_give_of_loading {state : Gallery} (change : List (Crossing ItemId)) {id : ItemId}
    (h : state.stage id = .loading) : (state.give change).stage id = .loading := by
  obtain ⟨ticket, hslot⟩ := exists_ticket h
  have hgiven : (state.give change).service.store.grid.slotAt id .thumbnail = .pending ticket := by
    rw [grid_give]
    exact Grid.pending_claimAll.mpr (Or.inl (Grid.pending_unload.mpr hslot))
  rw [stage, hgiven]
  rfl

/-! ## What every step keeps -/

/-- Every thumbnail belongs to an item that the store was told to be inside, or to one that was
overtaken; and the items that come in by all changes are those of the window at most. -/
structure Followed (state : Gallery) : Prop where
  /-- In a change items leave before others come in. -/
  ordered : ∀ change ∈ state.changes, ∃ exits entries, change = Crossing.change exits entries
  /-- Who came in by the changes and did not leave is in the window. -/
  inside : Crossing.afterAll ∅ (state.fed ++ state.changes.flatten) ⊆
    state.view.window.items.toFinset
  /-- There are no other thumbnails. -/
  thumbnails : ∀ id, state.stage id ≠ .notLoaded →
    id ∈ Crossing.afterAll ∅ state.fed ∨ id ∈ state.overtaken

theorem followed_fresh (config : Config) (draw : Nat → Uuid) (viewport : Viewport)
    (ratio : Float) : (fresh config draw viewport ratio).Followed where
  ordered change hm := by cases hm
  inside := Finset.empty_subset _
  thumbnails id h := absurd rfl h

/-- A change of the window waits to be fed. -/
theorem Followed.look {state : Gallery} (h : state.Followed)
    {result : ScrollView ItemId × List (Crossing ItemId)}
    (hordered : ∃ exits entries, result.2 = Crossing.change exits entries)
    (hinside : ∀ {inside : Finset ItemId}, inside ⊆ state.view.window.items.toFinset →
      Crossing.afterAll inside result.2 ⊆ result.1.window.items.toFinset) :
    (state.look result).Followed where
  ordered change hm := by
    rcases List.mem_append.mp hm with hm | hm
    · exact h.ordered change hm
    · rw [List.mem_singleton.mp hm]
      exact hordered
  inside := by
    have hflat : (state.changes ++ [result.2]).flatten = state.changes.flatten ++ result.2 := by
      rw [List.flatten_append, List.flatten_singleton]
    rw [Gallery.look, hflat, ← List.append_assoc, Crossing.afterAll_append]
    exact hinside h.inside
  thumbnails := h.thumbnails

/-- Once a change was fed, only thumbnails of what is inside are left, and those that are still
being fetched for what left. -/
theorem Followed.give {state : Gallery} (h : state.Followed) (exits entries : List ItemId)
    {id : ItemId} (hstage : (state.give (Crossing.change exits entries)).stage id ≠ .notLoaded) :
    id ∈ Crossing.afterAll ∅ (state.give (Crossing.change exits entries)).fed ∨
      id ∈ (state.give (Crossing.change exits entries)).overtaken := by
  have hslot := state.slotAt_give (Crossing.change exits entries) id
  rw [Crossing.enteredOf_change, Crossing.exitedOf_change] at hslot
  rw [Gallery.give, Crossing.afterAll_append, Crossing.mem_afterAll, Finset.mem_union,
    Finset.mem_sdiff, Finset.mem_filter, List.mem_toFinset, List.mem_toFinset,
    Crossing.exitedOf_change, Crossing.items_change, List.mem_append]
  by_cases hentry : id ∈ entries
  · exact Or.inl (Or.inr hentry)
  rw [Ne, stage_eq_notLoaded, hslot hentry] at hstage
  by_cases hexit : id ∈ exits
  · -- A thumbnail that was there is dropped, so it was being fetched.
    rw [if_pos hexit] at hstage
    have hloading : state.stage id = .loading := by
      unfold Gallery.stage
      cases hs : state.service.store.grid.slotAt id .thumbnail with
      | pending ticket => rfl
      | empty => exact absurd rfl (hs ▸ hstage)
      | loaded handle => exact absurd rfl (hs ▸ hstage)
    exact Or.inr (Or.inr ⟨hexit, hloading⟩)
  · rw [if_neg hexit] at hstage
    rcases h.thumbnails id fun hnone => hstage (stage_eq_notLoaded.mp hnone) with hin | hlate
    · exact Or.inl (Or.inl ⟨hin, hexit⟩)
    · exact Or.inr (Or.inl ⟨hlate, fun hm => hm.elim hexit hentry⟩)

theorem followed_step {state : Gallery} (h : state.Followed) {step : GalleryStep}
    (hnone : step.LoadsNone) : (state.step step).Followed := by
  cases step with
  | scroll viewport => exact ⟨h.ordered, h.inside, h.thumbnails⟩
  | reportPrepended count => exact ⟨h.ordered, h.inside, h.thumbnails⟩
  | follow shows =>
    refine h.look ?_ Window.inside_follow
    obtain ⟨exits, entries, -, hreport, -⟩ := Window.follow_report
      (shows state.view.bounds) (state.service.store.grid.ids.map some) state.view.window
    exact ⟨exits, entries, hreport⟩
  | rebuild shows =>
    refine h.look ?_ Window.inside_rebuild
    obtain ⟨entries, hreport, -⟩ := Window.rebuild_report
      (shows state.view.bounds) (state.service.store.grid.ids.map some) state.view.window
    exact ⟨_, _, hreport⟩
  | feed =>
    cases hchanges : state.changes with
    | nil =>
      rwa [step_feed_nil hchanges]
    | cons change rest =>
      obtain ⟨exits, entries, rfl⟩ := h.ordered change (hchanges ▸ List.mem_cons_self)
      rw [step_feed_cons hchanges]
      refine ⟨fun other hm => ?_, ?_, fun id hstage => h.give exits entries hstage⟩
      · exact h.ordered other (hchanges ▸ List.mem_cons_of_mem _ hm)
      · have hinside := h.inside
        rwa [hchanges, List.flatten_cons, ← List.append_assoc] at hinside
  | other turn =>
    refine ⟨h.ordered, h.inside, fun id hstage => h.thumbnails id fun hempty => hstage ?_⟩
    have hslot := (state.service.turn_moves turn).empty hnone (stage_eq_notLoaded.mp hempty)
    exact stage_eq_notLoaded.mpr hslot

/-- What is waited for is what the slots wait for, after every step. -/
theorem tracked_step {state : Gallery} (h : state.service.Tracked) (step : GalleryStep) :
    (state.step step).service.Tracked := by
  cases step with
  | feed =>
    cases hchanges : state.changes with
    | nil => rwa [step_feed_nil hchanges]
    | cons change rest =>
      have hgiven := state.service.turn_moves
        (.start (.followScroll (Window.enteredOf change) (Window.exitedOf change)))
      rw [step_feed_cons hchanges]
      exact hgiven.tracked h
  | other turn => exact (state.service.turn_moves turn).tracked h
  | _ => exact h

/-- An id that is overtaken was so before, or its thumbnail was being fetched when a change was
fed. -/
theorem overtaken_step {state : Gallery} {step : GalleryStep} {id : ItemId}
    (hm : id ∈ (state.step step).overtaken) :
    id ∈ state.overtaken ∨ step = .feed ∧ state.stage id = .loading := by
  cases step with
  | feed =>
    cases hchanges : state.changes with
    | nil =>
      rw [step_feed_nil hchanges] at hm
      exact Or.inl hm
    | cons change rest =>
      rw [step_feed_cons hchanges, give, Finset.mem_union, Finset.mem_sdiff,
        Finset.mem_filter] at hm
      exact hm.imp (fun h => h.1) fun h => ⟨rfl, h.2⟩
  | _ => exact Or.inl hm

theorem followed_run {state : Gallery} (h : state.Followed) {steps : List GalleryStep}
    (hnone : ∀ step ∈ steps, step.LoadsNone) : (state.run steps).Followed := by
  induction steps generalizing state with
  | nil => exact h
  | cons step rest ih =>
    have hstep := followed_step h (hnone step List.mem_cons_self)
    exact ih hstep fun later hm => hnone later (List.mem_cons_of_mem step hm)

theorem tracked_run {state : Gallery} (h : state.service.Tracked) (steps : List GalleryStep) :
    (state.run steps).service.Tracked := by
  induction steps generalizing state with
  | nil => exact h
  | cons step rest ih => exact ih (tracked_step h step)

/-- What is overtaken was waited for when a change was fed. -/
theorem overtaken_run (state : Gallery) (htracked : state.service.Tracked)
    (hnone : state.overtaken = ∅) (steps : List GalleryStep) :
    ∀ id ∈ (state.run steps).overtaken, ∃ early, early ++ [.feed] <+: steps ∧ ∃ ticket,
      (ByteFacet.thumbnail, (⟨id, ticket⟩ : Claim)) ∈ (state.run early).service.targets := by
  intro id hm
  induction steps using List.reverseRecOn with
  | nil =>
    rw [show state.run [] = state from rfl, hnone] at hm
    exact absurd hm (Finset.notMem_empty id)
  | append_singleton steps last ih =>
    rw [run_concat] at hm
    rcases overtaken_step hm with hearlier | ⟨rfl, hloading⟩
    · obtain ⟨early, hbegins, hwaits⟩ := ih hearlier
      exact ⟨early, hbegins.trans (List.prefix_append steps [last]), hwaits⟩
    · obtain ⟨ticket, hslot⟩ := exists_ticket hloading
      exact ⟨steps, List.prefix_rfl, ticket,
        (tracked_run htracked steps).pending id .thumbnail ticket hslot⟩

/-- However fetches overlap, and in whatever way they end, every thumbnail that is loaded belongs
to an item that came in by the changes that were fed and did not leave, or to one that was
overtaken: when its last exit was fed, its thumbnail was being fetched. So where all changes were
fed and nothing was overtaken, only items of the window have thumbnails. What is overtaken was
waited for when a change was fed; and no change calls a fetch back. -/
theorem thumbnails_follow_window (config : Config) (draw : Nat → Uuid) (viewport : Viewport)
    (ratio : Float) (steps : List GalleryStep) (hnone : ∀ step ∈ steps, step.LoadsNone) :
    let start := fresh config draw viewport ratio
    let state := start.run steps
    (∀ id, state.stage id = .loaded →
      id ∈ Crossing.afterAll ∅ state.fed ∨ id ∈ state.overtaken) ∧
    (state.changes = [] → ∀ id, state.stage id = .loaded → id ∉ state.overtaken →
      id ∈ state.view.window.items) ∧
    (∀ id ∈ state.overtaken, ∃ early, early ++ [.feed] <+: steps ∧ ∃ ticket,
      (ByteFacet.thumbnail, (⟨id, ticket⟩ : Claim)) ∈ (start.run early).service.targets) ∧
    ∀ change id, state.stage id = .loading → (state.give change).stage id = .loading := by
  intro start state
  have hfollowed : state.Followed :=
    followed_run (followed_fresh config draw viewport ratio) hnone
  have hloaded : ∀ id, state.stage id = .loaded →
      id ∈ Crossing.afterAll ∅ state.fed ∨ id ∈ state.overtaken := by
    intro id hstage
    apply hfollowed.thumbnails
    rw [hstage]
    exact LoadStage.noConfusion
  refine ⟨hloaded, fun hfed id hstage hnot => ?_, ?_, fun change id => stage_give_of_loading change⟩
  · have hin := (hloaded id hstage).resolve_right hnot
    have hinside := hfollowed.inside
    rw [hfed, List.flatten_nil, List.append_nil] at hinside
    exact List.mem_toFinset.mp (hinside hin)
  · exact overtaken_run start (Service.tracked_fresh config draw) rfl steps

/-- An item comes in, and its thumbnail is loaded. -/
theorem thumbnails_follow_window_shown :
    let shot : Artifact := ⟨"shots", "a.jpg", .image⟩
    let steps : List GalleryStep := [.other (.command (.add [shot])), .follow fun _ _ => true,
      .feed, .other (.answer 0 (.fetched [.ok "png"]))]
    let state := (fresh .standard .supply ⟨0, 1⟩ 0).run steps
    (∀ step ∈ steps, step.LoadsNone) ∧ state.stage shot.id = .loaded ∧
      shot.id ∈ state.view.window.items := by
  intro shot steps state
  have hnone : ∀ step ∈ steps, step.LoadsNone := by
    simp [steps, GalleryStep.LoadsNone, Turn.facet?]
  have hloaded : state.stage shot.id = .loaded := by decide +kernel
  obtain ⟨-, hwindow, -⟩ := thumbnails_follow_window .standard .supply ⟨0, 1⟩ 0 steps hnone
  have hnot : shot.id ∉ state.overtaken := by decide +kernel
  exact ⟨hnone, hloaded, hwindow (by decide +kernel) shot.id hloaded hnot⟩

/-- An item comes in, and it leaves while its thumbnail is being fetched. When the fetch ends, the
thumbnail is stored, although its item is not in the window and nothing is waited for. -/
theorem overtaken_thumbnail_stays :
    let shot : Artifact := ⟨"shots", "a.jpg", .image⟩
    let steps : List GalleryStep := [.other (.command (.add [shot])), .follow fun _ _ => true,
      .feed, .follow fun _ _ => false, .feed, .other (.answer 0 (.fetched [.ok "png"]))]
    let state := (fresh .standard .supply ⟨0, 1⟩ 0).run steps
    (∀ step ∈ steps, step.LoadsNone) ∧ state.service.waiting = [] ∧ state.changes = [] ∧
      state.fed = [.entered shot.id, .exited shot.id] ∧ state.view.window.items = [] ∧
      state.stage shot.id = .loaded := by
  intro shot steps state
  refine ⟨?_, by decide +kernel, by decide +kernel, by decide +kernel, by decide +kernel,
    by decide +kernel⟩
  simp [steps, GalleryStep.LoadsNone, Turn.facet?]

end Gallery

end MediaGrid
