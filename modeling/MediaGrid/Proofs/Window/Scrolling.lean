import Mathlib.Data.List.Induction
import MediaGrid.Proofs.Window.Part

/-!
# Runs of a scrolled sequence

A view is kept over a sequence that belongs to someone else. It is scrolled, items are laid out
anew, the sequence grows at its end or at its front or becomes another one, and from time to time
the window is followed or built anew. What is put in front has to be reported, and every other
change needs a window built anew before it is followed again; between two such reports the events
come in any order. In every such run the window is a part of the sequence whenever there is
nothing left to report, and settled whenever it was brought up to date; so following it is as good
as building it anew where the visible items stand together.
-/

namespace MediaGrid

/-- What happens to a scrolled sequence. -/
inductive ScrollEvent (α : Type) where
  /-- The viewport moves or changes its extent. -/
  | scroll (viewport : Viewport)
  /-- The items are laid out anew. -/
  | layOut (shows : Bounds → α → Bool)
  /-- Items are put behind the others. -/
  | append (added : List (Option α))
  /-- Items are put in front of the others. -/
  | prepend (added : List (Option α))
  /-- The view is told of items in front. -/
  | reportPrepended (count : Nat)
  /-- The sequence becomes another one. -/
  | replace (sequence : List (Option α))
  /-- The window is brought up to date. -/
  | follow
  /-- The window is built anew. -/
  | rebuild

/-- A view with the sequence it is over. -/
structure Scrolling (α : Type) where
  /-- The view. -/
  view : ScrollView α
  /-- The sequence. -/
  sequence : List (Option α)
  /-- Whether an item is visible in given bounds. -/
  shows : Bounds → α → Bool
  /-- How many items stand in front that the view was not told of. -/
  unreported : Nat
  /-- Whether the sequence became another one since the window was built. -/
  replaced : Bool
  /-- What was reported of items that came into the window or left it. -/
  report : List (Crossing α)

namespace Scrolling

variable {α : Type}

/-- A sequence with a view that was not brought up to date yet. -/
def fresh (viewport : Viewport) (ratio : Float) (shows : Bounds → α → Bool)
    (sequence : List (Option α)) : Scrolling α :=
  ⟨.ofViewport viewport ratio, sequence, shows, 0, false, []⟩

/-- Whether an item is visible. -/
def visible (state : Scrolling α) : α → Bool := state.shows state.view.bounds

/-- The window. -/
def window (state : Scrolling α) : Window α := state.view.window

/-- The view was told of every change of the sequence. -/
def IsCurrent (state : Scrolling α) : Prop :=
  state.unreported = 0 ∧ state.replaced = false

/-- A window is followed where the view was told of every change, and only items that stand in
front are reported to. -/
def Allows (state : Scrolling α) : ScrollEvent α → Prop
  | .reportPrepended count => count ≤ state.unreported
  | .follow => state.IsCurrent
  | _ => True

variable [BEq α]

/-- What an event reports of items that come into the window or leave it. -/
def crossings (state : Scrolling α) : ScrollEvent α → List (Crossing α)
  | .follow => (state.view.follow state.sequence state.shows).2
  | .rebuild => (state.view.rebuild state.sequence state.shows).2
  | _ => []

/-- The sequence and its view after an event. -/
def step (state : Scrolling α) : ScrollEvent α → Scrolling α
  | .scroll viewport => { state with view := { state.view with viewport := viewport } }
  | .layOut shows => { state with shows := shows }
  | .append added => { state with sequence := state.sequence ++ added }
  | .prepend added =>
    { state with
      sequence := added ++ state.sequence
      unreported := state.unreported + added.length }
  | .reportPrepended count =>
    { state with
      view := { state.view with window := state.view.window.shifted count }
      unreported := state.unreported - count }
  | .replace sequence => { state with sequence := sequence, replaced := true }
  | .follow =>
    { state with
      view := (state.view.follow state.sequence state.shows).1
      report := state.report ++ (state.view.follow state.sequence state.shows).2 }
  | .rebuild =>
    { state with
      view := (state.view.rebuild state.sequence state.shows).1
      unreported := 0
      replaced := false
      report := state.report ++ (state.view.rebuild state.sequence state.shows).2 }

/-- The sequence and its view after events that came one after the other. -/
def run (state : Scrolling α) (events : List (ScrollEvent α)) : Scrolling α :=
  events.foldl step state

/-- Every event of a run is allowed where it comes. -/
def AllowsAll (state : Scrolling α) : List (ScrollEvent α) → Prop
  | [] => True
  | event :: rest => state.Allows event ∧ (state.step event).AllowsAll rest

/-- The last event of a run comes on top. -/
theorem run_concat (state : Scrolling α) (events : List (ScrollEvent α))
    (event : ScrollEvent α) : state.run (events ++ [event]) = (state.run events).step event :=
  List.foldl_append

/-- A run is allowed when its beginning is, and its last event after that. -/
theorem allowsAll_concat {state : Scrolling α} {events : List (ScrollEvent α)}
    {event : ScrollEvent α} :
    state.AllowsAll (events ++ [event]) ↔
      state.AllowsAll events ∧ (state.run events).Allows event := by
  induction events generalizing state with
  | nil => exact ⟨fun h => ⟨trivial, h.1⟩, fun h => ⟨h.2, trivial⟩⟩
  | cons first rest ih =>
    rw [List.cons_append, AllowsAll, ih, AllowsAll, and_assoc]
    rfl

/-- Whatever the sequence was before it grew at its front, the window is a part of it. -/
def Aligned (state : Scrolling α) : Prop :=
  state.replaced = false → ∃ added known, state.sequence = added ++ known ∧
    added.length = state.unreported ∧ state.window.IsPartOf known

omit [BEq α] in
theorem aligned_fresh (viewport : Viewport) (ratio : Float) (shows : Bounds → α → Bool)
    (sequence : List (Option α)) : (fresh viewport ratio shows sequence).Aligned :=
  fun _ => ⟨[], sequence, rfl, rfl, Window.isPartOf_empty sequence⟩

omit [BEq α] in
/-- Where the view was told of every change, the window is a part of the sequence. -/
theorem Aligned.isPartOf {state : Scrolling α} (h : state.Aligned) (hcurrent : state.IsCurrent) :
    state.window.IsPartOf state.sequence := by
  obtain ⟨added, known, hsequence, hlength, hpart⟩ := h hcurrent.2
  rw [hcurrent.1, List.length_eq_zero_iff] at hlength
  rwa [hsequence, hlength, List.nil_append]

/-- A window that was brought up to date or built anew is settled. -/
theorem settled_step {state : Scrolling α} (h : state.Aligned) {event : ScrollEvent α}
    (hevent : event = .follow ∨ event = .rebuild) (hallows : state.Allows event) :
    (state.step event).window.Settled (state.step event).visible (state.step event).sequence := by
  rcases hevent with rfl | rfl
  · exact Window.settled_follow (h.isPartOf hallows)
  · exact Window.settled_rebuild _ _ state.view.window

/-- Every event that is allowed leaves the window where it belongs. -/
theorem aligned_step {state : Scrolling α} (h : state.Aligned) {event : ScrollEvent α}
    (hallows : state.Allows event) : (state.step event).Aligned := by
  cases event with
  | scroll viewport => exact h
  | layOut shows => exact h
  | append items =>
    intro hreplaced
    obtain ⟨added, known, hsequence, hlength, hpart⟩ := h hreplaced
    refine ⟨added, known ++ items, ?_, hlength, hpart.append items⟩
    rw [step, hsequence, List.append_assoc]
  | prepend items =>
    intro hreplaced
    obtain ⟨added, known, hsequence, hlength, hpart⟩ := h hreplaced
    refine ⟨items ++ added, known, ?_, ?_, hpart⟩
    · rw [step, hsequence, List.append_assoc]
    · rw [step, List.length_append, hlength, Nat.add_comm]
  | reportPrepended count =>
    intro hreplaced
    obtain ⟨added, known, hsequence, hlength, hpart⟩ := h hreplaced
    -- The items that are reported are the last of those in front.
    have hcount : count ≤ added.length := hlength ▸ hallows
    have hlast : (added.drop (added.length - count)).length = count := by
      rw [List.length_drop]
      omega
    refine ⟨added.take (added.length - count), added.drop (added.length - count) ++ known,
      ?_, ?_, ?_⟩
    · rw [← List.append_assoc, List.take_append_drop]
      exact hsequence
    · rw [List.length_take, hlength]
      exact Nat.min_eq_left (Nat.sub_le _ _)
    · have hshifted := hpart.shifted (added.drop (added.length - count))
      rwa [hlast] at hshifted
  | replace sequence =>
    intro hreplaced
    cases hreplaced
  | follow =>
    intro _
    exact ⟨[], state.sequence, rfl, hallows.1.symm,
      (settled_step h (Or.inl rfl) hallows).part⟩
  | rebuild =>
    intro _
    exact ⟨[], state.sequence, rfl, rfl, (settled_step h (Or.inr rfl) hallows).part⟩

theorem aligned_run {state : Scrolling α} (h : state.Aligned) {events : List (ScrollEvent α)}
    (hallows : state.AllowsAll events) : (state.run events).Aligned := by
  induction events generalizing state with
  | nil => exact h
  | cons event rest ih => exact ih (aligned_step h hallows.1) hallows.2

/-- In every run in which the view is told of what was put in front, and its window built anew
after any other change, the window is a part of the sequence whenever nothing is left to report.
Once it was brought up to date or built anew it is empty exactly when nothing is visible, begins
and ends with visible items, and has no visible neighbour; and where the visible items stand
together, it is made of exactly them, so both ways lead to the same window. -/
theorem window_agrees (viewport : Viewport) (ratio : Float) (shows : Bounds → α → Bool)
    (sequence : List (Option α)) (events : List (ScrollEvent α))
    (hallows : (fresh viewport ratio shows sequence).AllowsAll events) :
    let state := (fresh viewport ratio shows sequence).run events
    (state.IsCurrent → state.window.IsPartOf state.sequence) ∧
    (∀ event, event = .follow ∨ event = .rebuild → state.Allows event →
      let after := state.step event
      (after.window.items = [] ↔
        ∀ item, some item ∈ after.sequence → after.visible item = false) ∧
      after.window.Settled after.visible after.sequence ∧
      ∀ before shown beyond, after.sequence = before ++ shown.map some ++ beyond →
        Window.Together after.visible before shown beyond →
        after.window = ⟨shown, if shown = [] then 0 else before.length⟩) ∧
    (state.IsCurrent → ∀ before shown beyond,
      state.sequence = before ++ shown.map some ++ beyond →
      Window.Together state.visible before shown beyond →
      (state.step .follow).window = (state.step .rebuild).window) := by
  intro state
  have haligned : state.Aligned := aligned_run (aligned_fresh viewport ratio shows sequence) hallows
  refine ⟨haligned.isPartOf, fun event hevent hallowed => ?_,
    fun hcurrent before shown beyond hsequence htogether => ?_⟩
  · have hsettled := settled_step haligned hevent hallowed
    exact ⟨hsettled.items_eq_nil_iff, hsettled,
      fun before shown beyond hsequence htogether => hsettled.eq_of_together hsequence htogether⟩
  · have hfollowed := settled_step haligned (Or.inl rfl) hcurrent
    have hrebuilt := settled_step haligned (Or.inr rfl) trivial
    rw [hfollowed.eq_of_together hsequence htogether, hrebuilt.eq_of_together hsequence htogether]

/-- Two items were put in front and reported, and then others became visible: an item leaves the
window at its end, and one of the new items comes in. -/
theorem window_agrees_prepended :
    let start : Scrolling Nat := fresh ⟨0, 1⟩ 0 (fun _ item => 2 ≤ item && item ≤ 3)
      [some 2, some 3, some 4]
    let events : List (ScrollEvent Nat) := [.follow, .prepend [some 0, some 1],
      .reportPrepended 2, .layOut fun _ item => 1 ≤ item && item ≤ 2]
    start.AllowsAll events ∧ ((start.run events).step .follow).window = ⟨[1, 2], 1⟩ := by
  intro start events
  have hallows : start.AllowsAll events :=
    ⟨⟨rfl, rfl⟩, trivial, Nat.le_refl 2, trivial, trivial⟩
  have htogether : Window.Together ((start.run events).step .follow).visible [some 0] [1, 2]
      [some 3, some 4] := by
    refine ⟨fun item hm => ?_, fun item hm => ?_, fun item hm => ?_⟩
    · cases List.mem_singleton.mp hm
      rfl
    · rcases List.mem_pair.mp hm with rfl | rfl <;> rfl
    · rcases List.mem_pair.mp hm with he | he <;> cases he <;> rfl
  obtain ⟨-, hsettled, -⟩ := window_agrees ⟨0, 1⟩ 0 _ [some 2, some 3, some 4] events hallows
  exact ⟨hallows, (hsettled .follow (Or.inl rfl) ⟨rfl, rfl⟩).2.2 _ _ _ rfl htogether⟩

end Scrolling

end MediaGrid
