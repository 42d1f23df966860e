import Mathlib.Data.Finset.Basic
import Mathlib.Data.Finset.Lattice.Lemmas
import Mathlib.Data.List.ReduceOption
import MediaGrid.Proofs.Window.Scrolling

/-!
# What a window reports

Whoever keeps something for each item of a window goes by what the window reports: an item that
came in is put to the others, and one that left is taken away. Following a window reports items
one by one while they are dropped and taken in, and building it anew reports the difference of
the two windows. Where the items of the sequence are distinct, both lead to exactly the items of
the window, no item is reported twice at once, nothing comes in that is inside, and nothing
leaves that is not. The visible items need not stand together.
-/

namespace MediaGrid

namespace Crossing

variable {α : Type}

/-- The item that crosses. -/
def item : Crossing α → α
  | .entered item => item
  | .exited item => item

/-- Some items leave, and then others come in. -/
def change (exits entries : List α) : List (Crossing α) :=
  exits.map .exited ++ entries.map .entered

theorem items_change (exits entries : List α) :
    (change exits entries).map item = exits ++ entries := by
  rw [change, List.map_append, List.map_map, List.map_map]
  exact congrArg₂ (· ++ ·) (List.map_id exits) (List.map_id entries)

theorem enteredOf_change (exits entries : List α) :
    Window.enteredOf (change exits entries) = entries := by
  have hexits : (exits.filterMap fun _ => (none : Option α)) = [] :=
    List.filterMap_eq_nil_iff.mpr fun _ _ => rfl
  rw [Window.enteredOf, change, List.filterMap_append, List.filterMap_map, List.filterMap_map]
  exact congrArg₂ (· ++ ·) hexits List.filterMap_some

theorem exitedOf_change (exits entries : List α) :
    Window.exitedOf (change exits entries) = exits := by
  have hentries : (entries.filterMap fun _ => (none : Option α)) = [] :=
    List.filterMap_eq_nil_iff.mpr fun _ _ => rfl
  rw [Window.exitedOf, change, List.filterMap_append, List.filterMap_map, List.filterMap_map]
  exact (congrArg₂ (· ++ ·) List.filterMap_some hentries).trans (List.append_nil exits)

section

variable [DecidableEq α]

/-- The items that are inside after a crossing. -/
def after (inside : Finset α) : Crossing α → Finset α
  | .entered item => insert item inside
  | .exited item => inside.erase item

/-- The items that are inside after crossings that came one after the other. -/
def afterAll (inside : Finset α) (crossings : List (Crossing α)) : Finset α :=
  crossings.foldl after inside

/-- An item that comes in was not inside, and one that leaves was. -/
def Fits (inside : Finset α) : Crossing α → Prop
  | .entered item => item ∉ inside
  | .exited item => item ∈ inside

/-- Every crossing fits to those that are inside where it comes. -/
def Orderly (inside : Finset α) : List (Crossing α) → Prop
  | [] => True
  | crossing :: rest => crossing.Fits inside ∧ Orderly (crossing.after inside) rest

theorem afterAll_append (inside : Finset α) (first rest : List (Crossing α)) :
    afterAll inside (first ++ rest) = afterAll (afterAll inside first) rest :=
  List.foldl_append

theorem orderly_append {inside : Finset α} {first rest : List (Crossing α)} :
    Orderly inside (first ++ rest) ↔
      Orderly inside first ∧ Orderly (afterAll inside first) rest := by
  induction first generalizing inside with
  | nil => exact (and_iff_right trivial).symm
  | cons crossing others ih =>
    rw [List.cons_append, Orderly, ih, Orderly, and_assoc]
    rfl

theorem afterAll_exited (inside : Finset α) (items : List α) :
    afterAll inside (items.map .exited) = inside \ items.toFinset := by
  induction items generalizing inside with
  | nil => exact Finset.sdiff_empty.symm
  | cons head rest ih =>
    rw [List.map_cons, List.toFinset_cons, Finset.sdiff_insert, ← Finset.erase_sdiff_comm]
    exact ih (inside.erase head)

theorem afterAll_entered (inside : Finset α) (items : List α) :
    afterAll inside (items.map .entered) = inside ∪ items.toFinset := by
  induction items generalizing inside with
  | nil => exact (Finset.union_empty inside).symm
  | cons head rest ih =>
    rw [List.map_cons, List.toFinset_cons, Finset.union_insert, ← Finset.insert_union]
    exact ih (insert head inside)

/-- After items left and others came in, those are inside that stayed, and the others. -/
theorem mem_afterAll {inside : Finset α} {exits entries : List α} {item : α} :
    item ∈ afterAll inside (change exits entries) ↔
      item ∈ inside ∧ item ∉ exits ∨ item ∈ entries := by
  rw [change, afterAll_append, afterAll_exited, afterAll_entered, Finset.mem_union,
    Finset.mem_sdiff, List.mem_toFinset, List.mem_toFinset]

theorem orderly_exited {inside : Finset α} {items : List α} (hnodup : items.Nodup)
    (hinside : ∀ item ∈ items, item ∈ inside) : Orderly inside (items.map .exited) := by
  induction items generalizing inside with
  | nil => trivial
  | cons head rest ih =>
    obtain ⟨hhead, hrest⟩ := List.nodup_cons.mp hnodup
    refine ⟨hinside head List.mem_cons_self, ih hrest fun item hm => ?_⟩
    have hne : item ≠ head := fun he => hhead (he ▸ hm)
    exact Finset.mem_erase.mpr ⟨hne, hinside item (List.mem_cons_of_mem _ hm)⟩

theorem orderly_entered {inside : Finset α} {items : List α} (hnodup : items.Nodup)
    (houtside : ∀ item ∈ items, item ∉ inside) : Orderly inside (items.map .entered) := by
  induction items generalizing inside with
  | nil => trivial
  | cons head rest ih =>
    obtain ⟨hhead, hrest⟩ := List.nodup_cons.mp hnodup
    refine ⟨houtside head List.mem_cons_self, ih hrest fun item hm hin => ?_⟩
    rcases Finset.mem_insert.mp hin with rfl | hin
    · exact hhead hm
    · exact houtside item (List.mem_cons_of_mem _ hm) hin

end

/-- The crossings lead from some items to others: first those leave that stay away, and then
those come in that were not there, each of them once. -/
structure Exchange (old new : List α) (crossings : List (Crossing α)) (exits entries : List α) :
    Prop where
  /-- Items leave before others come in. -/
  shape : crossings = change exits entries
  /-- No item leaves twice. -/
  exits_nodup : exits.Nodup
  /-- No item comes in twice. -/
  entries_nodup : entries.Nodup
  /-- Items leave that stay away. -/
  mem_exits : ∀ item, item ∈ exits ↔ item ∈ old ∧ item ∉ new
  /-- Items come in that were not there. -/
  mem_entries : ∀ item, item ∈ entries ↔ item ∈ new ∧ item ∉ old

variable {old new exits entries : List α} {crossings : List (Crossing α)}

/-- Of items of which some are kept, those leave that are not there afterwards. -/
theorem mem_leaving {kept : List α} (hold : old.Perm (exits ++ kept))
    (hnew : new.Perm (entries ++ kept)) (hnodup : old.Nodup)
    (hapart : ∀ item ∈ exits, item ∉ entries) (item : α) :
    item ∈ exits ↔ item ∈ old ∧ item ∉ new := by
  have hdistinct := List.nodup_append.mp (hold.nodup_iff.mp hnodup)
  rw [hold.mem_iff, hnew.mem_iff, List.mem_append, List.mem_append, not_or]
  refine ⟨fun hm => ⟨Or.inl hm, hapart item hm, fun hkept => ?_⟩, fun h => ?_⟩
  · exact hdistinct.2.2 item hm item hkept rfl
  · exact h.1.resolve_right h.2.2

/-- Items of which some are kept are exchanged where none that leaves comes in again. -/
theorem exchange_of_kept {kept : List α}
    (hshape : crossings = change exits entries) (hold : old.Perm (exits ++ kept))
    (hnew : new.Perm (entries ++ kept)) (holdNodup : old.Nodup) (hnewNodup : new.Nodup)
    (hapart : ∀ item ∈ exits, item ∉ entries) :
    Exchange old new crossings exits entries where
  shape := hshape
  exits_nodup := (hold.nodup_iff.mp holdNodup).of_append_left
  entries_nodup := (hnew.nodup_iff.mp hnewNodup).of_append_left
  mem_exits := mem_leaving hold hnew holdNodup hapart
  mem_entries := mem_leaving hnew hold hnewNodup fun item hentry hexit => hapart item hexit hentry

/-- Where nothing crosses, the items stay. -/
theorem exchange_nil (items : List α) : Exchange items items [] [] [] where
  shape := rfl
  exits_nodup := List.nodup_nil
  entries_nodup := List.nodup_nil
  mem_exits item := by
    rw [and_not_self_iff]
    exact List.mem_nil_iff item
  mem_entries item := by
    rw [and_not_self_iff]
    exact List.mem_nil_iff item

/-- After an exchange the new items are inside. -/
theorem Exchange.afterAll [DecidableEq α] (h : Exchange old new crossings exits entries) :
    afterAll old.toFinset crossings = new.toFinset := by
  ext item
  rw [h.shape, mem_afterAll, List.mem_toFinset, List.mem_toFinset, h.mem_exits, h.mem_entries]
  tauto

/-- Every crossing of an exchange fits. -/
theorem Exchange.orderly [DecidableEq α] (h : Exchange old new crossings exits entries) :
    Orderly old.toFinset crossings := by
  rw [h.shape, change, orderly_append, afterAll_exited]
  refine ⟨orderly_exited h.exits_nodup fun item hm => ?_,
    orderly_entered h.entries_nodup fun item hm hin => ?_⟩
  · exact List.mem_toFinset.mpr ((h.mem_exits item).mp hm).1
  · have hold := (Finset.mem_sdiff.mp hin).1
    exact ((h.mem_entries item).mp hm).2 (List.mem_toFinset.mp hold)

/-- No item crosses twice in an exchange. -/
theorem Exchange.nodup (h : Exchange old new crossings exits entries) :
    (crossings.map item).Nodup := by
  rw [h.shape, items_change, List.nodup_append]
  refine ⟨h.exits_nodup, h.entries_nodup, fun item hexit other hentry he => ?_⟩
  have hold := ((h.mem_exits item).mp hexit).1
  exact ((h.mem_entries other).mp hentry).2 (he ▸ hold)

end Crossing

namespace Window

variable {α : Type} {visible : α → Bool} {sequence : List (Option α)} {window : Window α}

/-! ## Reports of one change -/

/-- Extending a window reports the items that come to those it has, and they are visible. -/
theorem extend_report (visible : α → Bool) (sequence : List (Option α)) (window : Window α) :
    ∃ entries, (window.extend visible sequence).2 = entries.map .entered ∧
      (window.extend visible sequence).1.items.Perm (entries ++ window.items) ∧
      ∀ item ∈ entries, visible item = true := by
  have hrun : ∀ places : List (Option α), ∀ item ∈ visibleRun visible places,
      visible item = true := fun places => by
    obtain ⟨-, -, hall, -⟩ := visibleRun_cases visible places
    exact hall
  simp only [extend]
  generalize hafter : visibleRun visible (sequence.drop (window.start + window.items.length)) =
    after
  generalize hbefore : (if window.start ≤ sequence.length then
    visibleRun visible (sequence.take window.start).reverse else []) = before
  refine ⟨after ++ before, rfl, ?_, fun item hm => ?_⟩
  · have hside := (List.reverse_perm before).append_right window.items
    rw [List.append_assoc after]
    exact List.perm_append_comm.trans (hside.append_left after)
  · rcases List.mem_append.mp hm with hm | hm
    · exact hrun _ item (hafter ▸ hm)
    · rw [← hbefore] at hm
      split at hm
      · exact hrun _ item hm
      · cases hm

/-- A window that starts again reports all its items, and they are visible. -/
theorem seed_report (visible : α → Bool) (sequence : List (Option α)) :
    ∃ entries, (seed visible sequence).2 = entries.map .entered ∧
      (seed visible sequence).1.items.Perm entries ∧ ∀ item ∈ entries, visible item = true := by
  unfold seed
  cases hfound : firstVisible? visible sequence with
  | none => exact ⟨[], rfl, List.Perm.refl [], fun item hm => absurd hm List.not_mem_nil⟩
  | some found =>
    obtain ⟨index, first⟩ := found
    obtain ⟨hfirst, -⟩ := firstVisible?_eq_some hfound
    obtain ⟨entries, hreport, hitems, hentries⟩ := extend_report visible sequence ⟨[first], index⟩
    refine ⟨first :: entries, ?_, hitems.trans List.perm_append_comm, fun item hm => ?_⟩
    · rw [List.map_cons, ← hreport]
    · rcases List.mem_cons.mp hm with rfl | hm
      · exact hfirst
      · exact hentries item hm

/-- Following a window reports the invisible items that leave and then the visible ones that come
in; the others are in the window before and after. -/
theorem follow_report (visible : α → Bool) (sequence : List (Option α)) (window : Window α) :
    ∃ exits entries kept,
      (window.follow visible sequence).2 = Crossing.change exits entries ∧
      window.items.Perm (exits ++ kept) ∧
      (window.follow visible sequence).1.items.Perm (entries ++ kept) ∧
      (∀ item ∈ exits, visible item = false) ∧ ∀ item ∈ entries, visible item = true := by
  obtain ⟨front, back, hitems, hinvisible, htrim, -⟩ := trim_cases visible window
  have hexits : ∀ item ∈ front ++ back.reverse, visible item = false := by
    intro item hm
    rw [List.mem_append, List.mem_reverse, ← List.mem_append] at hm
    exact hinvisible item hm
  have hold : window.items.Perm (front ++ back.reverse ++ (window.trim visible).1.items) := by
    rw [hitems, List.append_assoc, List.append_assoc]
    refine List.Perm.append_left front (List.perm_append_comm.trans ?_)
    exact (List.reverse_perm back).symm.append_right _
  simp only [follow]
  split
  · rename_i hempty
    obtain ⟨entries, hreport, hnew, hentries⟩ := seed_report visible sequence
    refine ⟨front ++ back.reverse, entries, [], ?_, ?_, ?_, hexits, hentries⟩
    · rw [htrim, hreport, Crossing.change]
    · rwa [List.isEmpty_iff.mp hempty] at hold
    · rwa [List.append_nil]
  · obtain ⟨entries, hreport, hnew, hentries⟩ :=
      extend_report visible sequence (window.trim visible).1
    refine ⟨front ++ back.reverse, entries, (window.trim visible).1.items, ?_, hold, hnew, hexits,
      hentries⟩
    rw [htrim, hreport, Crossing.change]

/-- Building a window anew reports its items that are not among the new ones, and then the new
items that were not among its own. -/
theorem rebuild_report [DecidableEq α] (visible : α → Bool) (sequence : List (Option α))
    (window : Window α) : ∃ entries,
      (window.rebuild visible sequence).2 = Crossing.change
        (window.items.filter fun item => item ∉ (window.rebuild visible sequence).1.items)
        (entries.filter fun item => item ∉ window.items) ∧
      (window.rebuild visible sequence).1.items.Perm entries := by
  obtain ⟨entries, hreport, hnew, -⟩ := seed_report visible sequence
  refine ⟨entries, ?_, hnew⟩
  have hentered : enteredOf (seed visible sequence).2 = entries := by
    rw [hreport]
    exact Crossing.enteredOf_change [] entries
  simp only [rebuild, Crossing.change, hentered, List.contains_eq_mem, ← decide_not]

/-- Following a window leaves nobody inside who is not in the new window. -/
theorem inside_follow [DecidableEq α] {inside : Finset α} (h : inside ⊆ window.items.toFinset) :
    Crossing.afterAll inside (window.follow visible sequence).2 ⊆
      (window.follow visible sequence).1.items.toFinset := by
  obtain ⟨exits, entries, kept, hreport, hold, hnew, -⟩ := follow_report visible sequence window
  intro item hm
  rw [hreport, Crossing.mem_afterAll] at hm
  rw [List.mem_toFinset, hnew.mem_iff, List.mem_append]
  rcases hm with ⟨hin, hstays⟩ | hentry
  · have hitem := hold.mem_iff.mp (List.mem_toFinset.mp (h hin))
    exact Or.inr ((List.mem_append.mp hitem).resolve_left hstays)
  · exact Or.inl hentry

/-- Building a window anew leaves nobody inside who is not in the new window. -/
theorem inside_rebuild [DecidableEq α] {inside : Finset α} (h : inside ⊆ window.items.toFinset) :
    Crossing.afterAll inside (window.rebuild visible sequence).2 ⊆
      (window.rebuild visible sequence).1.items.toFinset := by
  obtain ⟨entries, hreport, hnew⟩ := rebuild_report visible sequence window
  intro item hm
  rw [hreport, Crossing.mem_afterAll] at hm
  rw [List.mem_toFinset]
  rcases hm with ⟨hin, hstays⟩ | hentry
  · have hitem := List.mem_toFinset.mp (h hin)
    rw [List.mem_filter, not_and, decide_eq_true_iff, not_not] at hstays
    exact hstays hitem
  · exact hnew.mem_iff.mpr (List.mem_of_mem_filter hentry)

/-! ## Distinct items -/

/-- The items of a part are distinct where those of the sequence are. -/
theorem IsPartOf.nodup (h : window.IsPartOf sequence) (hdistinct : sequence.reduceOption.Nodup) :
    window.items.Nodup := by
  obtain ⟨before, after, rfl, -⟩ := h
  have hitems : (window.items.map some).reduceOption = window.items := by
    rw [List.reduceOption, List.filterMap_map]
    exact List.filterMap_some
  rw [List.reduceOption_append, List.reduceOption_append, hitems] at hdistinct
  exact hdistinct.of_append_left.of_append_right

/-- Following a window exchanges its items for those of the new one. -/
theorem exchange_follow (hold : window.items.Nodup)
    (hnew : (window.follow visible sequence).1.items.Nodup) : ∃ exits entries,
      Crossing.Exchange window.items (window.follow visible sequence).1.items
        (window.follow visible sequence).2 exits entries := by
  obtain ⟨exits, entries, kept, hreport, hbefore, hafter, hexits, hentries⟩ :=
    follow_report visible sequence window
  refine ⟨exits, entries, Crossing.exchange_of_kept hreport hbefore hafter hold hnew ?_⟩
  intro item hexit hentry
  have hvisible := hentries item hentry
  rw [hexits item hexit] at hvisible
  cases hvisible

/-- Building a window anew exchanges its items for those of the new one. -/
theorem exchange_rebuild [DecidableEq α] (hold : window.items.Nodup)
    (hnew : (window.rebuild visible sequence).1.items.Nodup) : ∃ exits entries,
      Crossing.Exchange window.items (window.rebuild visible sequence).1.items
        (window.rebuild visible sequence).2 exits entries := by
  obtain ⟨entries, hreport, hafter⟩ := rebuild_report visible sequence window
  rw [hafter.nodup_iff] at hnew
  refine ⟨_, _, hreport, hold.filter _, hnew.filter _, fun item => ?_, fun item => ?_⟩
  · rw [List.mem_filter, decide_eq_true_iff]
  · rw [List.mem_filter, decide_eq_true_iff, hafter.mem_iff]

end Window

namespace Scrolling

variable {α : Type} [DecidableEq α]

/-- What an event reports comes to what was reported. -/
theorem report_step (state : Scrolling α) (event : ScrollEvent α) :
    (state.step event).report = state.report ++ state.crossings event := by
  cases event with
  | follow => rfl
  | rebuild => rfl
  | _ => exact (List.append_nil _).symm

/-- Every event exchanges the items of the window for those it leaves there. -/
theorem exchange_step {state : Scrolling α} (haligned : state.Aligned) {event : ScrollEvent α}
    (hallows : state.Allows event) (hdistinct : state.sequence.reduceOption.Nodup)
    (hnodup : state.window.items.Nodup) :
    (state.step event).window.items.Nodup ∧ ∃ exits entries,
      Crossing.Exchange state.window.items (state.step event).window.items
        (state.crossings event) exits entries := by
  cases event with
  | follow =>
    have hnew := (settled_step haligned (Or.inl rfl) hallows).part.nodup hdistinct
    exact ⟨hnew, Window.exchange_follow hnodup hnew⟩
  | rebuild =>
    have hnew := (settled_step haligned (Or.inr rfl) hallows).part.nodup hdistinct
    exact ⟨hnew, Window.exchange_rebuild hnodup hnew⟩
  | _ => exact ⟨hnodup, [], [], Crossing.exchange_nil _⟩

/-- In every run over distinct items in which the view is told of what was put in front, and its
window built anew after any other change, the items that came in by the report and did not leave
are exactly those of the window. Only items outside are reported to come in, only items inside
to leave, and no event reports an item twice. -/
theorem crossings_once (viewport : Viewport) (ratio : Float) (shows : Bounds → α → Bool)
    (sequence : List (Option α)) (events : List (ScrollEvent α))
    (hallows : (fresh viewport ratio shows sequence).AllowsAll events)
    (hdistinct : ∀ early, early <+: events →
      ((fresh viewport ratio shows sequence).run early).sequence.reduceOption.Nodup) :
    let start := fresh viewport ratio shows sequence
    let state := start.run events
    Crossing.afterAll ∅ state.report = state.window.items.toFinset ∧
    state.window.items.Nodup ∧
    Crossing.Orderly ∅ state.report ∧
    ∀ early event, early ++ [event] <+: events →
      (((start.run early).crossings event).map Crossing.item).Nodup := by
  intro start state
  induction events using List.reverseRecOn with
  | nil =>
    refine ⟨rfl, List.nodup_nil, trivial, fun early event hbegins => ?_⟩
    exact absurd (List.prefix_nil.mp hbegins) (List.concat_ne_nil event early)
  | append_singleton events last ih =>
    obtain ⟨hearlier, hlast⟩ := allowsAll_concat.mp hallows
    obtain ⟨hinside, hnodup, horderly, hall⟩ :=
      ih hearlier fun early hbegins => hdistinct early (hbegins.trans (List.prefix_append _ _))
    have haligned : (start.run events).Aligned :=
      aligned_run (aligned_fresh viewport ratio shows sequence) hearlier
    obtain ⟨hnew, exits, entries, hexchange⟩ :=
      exchange_step haligned hlast (hdistinct events (List.prefix_append _ _)) hnodup
    have hstate : state = (start.run events).step last := run_concat start events last
    rw [hstate, report_step]
    refine ⟨?_, hnew, ?_, fun early event hbegins => ?_⟩
    · rw [Crossing.afterAll_append, hinside, hexchange.afterAll]
    · rw [Crossing.orderly_append, hinside]
      exact ⟨horderly, hexchange.orderly⟩
    · rcases List.prefix_concat_iff.mp hbegins with he | hbegins
      · obtain ⟨rfl, hevent⟩ := List.append_inj' he rfl
        cases hevent
        exact hexchange.nodup
      · exact hall early event hbegins

/-- The view is over three items of which the outer ones are visible, then over the same items of
which the last two are, and then over another sequence with one of them. -/
theorem crossings_once_replaced :
    let start : Scrolling Nat := fresh ⟨0, 1⟩ 0 (fun _ item => item != 2)
      [some 1, some 2, some 3]
    let events : List (ScrollEvent Nat) := [.follow, .layOut fun _ item => 2 ≤ item, .follow,
      .replace [some 3, some 4], .rebuild]
    start.AllowsAll events ∧ Crossing.afterAll ∅ (start.run events).report = {3, 4} := by
  intro start events
  have hallows : start.AllowsAll events :=
    ⟨⟨rfl, rfl⟩, trivial, ⟨rfl, rfl⟩, trivial, trivial, trivial⟩
  have hdistinct : ∀ early, early <+: events →
      (start.run early).sequence.reduceOption.Nodup := by
    intro early hbegins
    rw [← List.mem_inits] at hbegins
    simp only [events, List.inits, List.map_cons, List.map_nil, List.mem_cons,
      List.not_mem_nil, or_false] at hbegins
    rcases hbegins with rfl | rfl | rfl | rfl | rfl | rfl <;> decide
  obtain ⟨hinside, -⟩ :=
    crossings_once ⟨0, 1⟩ 0 _ [some 1, some 2, some 3] events hallows hdistinct
  have hwindow : (start.run events).window.items = [3, 4] := rfl
  refine ⟨hallows, hinside.trans ?_⟩
  rw [hwindow]
  rfl

end Scrolling

end MediaGrid
