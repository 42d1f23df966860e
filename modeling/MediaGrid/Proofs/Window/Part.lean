import Mathlib.Data.List.Basic
import MediaGrid.Window.Basic

/-!
# Windows as parts of a sequence

A window is a part of its sequence when its items stand there, without a hole, from its start
on. It is settled when it also begins and ends with visible items, has no visible neighbour on
either side, and is empty only if nothing is visible. Following a window that is a part, and
building any window anew, give a settled one. Where the visible items stand together there is
only one settled window, so both give the same. Nothing is assumed about the items: they may be
equal to each other, and those between the ends of a window need not be visible.
-/

namespace MediaGrid

variable {α : Type} {visible : α → Bool} {sequence : List (Option α)}

/-! ## Looking for visible items -/

/-- A run of visible items ends before a hole, before an item that is not visible, or at the end
of the list. -/
theorem visibleRun_cases (visible : α → Bool) (sequence : List (Option α)) :
    ∃ rest, sequence = (visibleRun visible sequence).map some ++ rest ∧
      (∀ item ∈ visibleRun visible sequence, visible item = true) ∧
      ∀ item, rest.head? = some (some item) → visible item = false := by
  induction sequence with
  | nil =>
    refine ⟨[], rfl, fun item hm => ?_, fun item hitem => ?_⟩
    · cases hm
    · cases hitem
  | cons place rest ih =>
    cases place with
    | none =>
      refine ⟨none :: rest, rfl, fun item hm => ?_, fun item hitem => ?_⟩
      · cases hm
      · cases hitem
    | some head =>
      rw [visibleRun]
      split
      · rename_i hhead
        obtain ⟨beyond, hrest, hall, hend⟩ := ih
        refine ⟨beyond, ?_, fun item hm => ?_, hend⟩
        · rw [List.map_cons, List.cons_append, ← hrest]
        · rcases List.mem_cons.mp hm with rfl | hm
          · exact hhead
          · exact hall item hm
      · rename_i hhead
        refine ⟨some head :: rest, rfl, fun item hm => ?_, fun item hitem => ?_⟩
        · cases hm
        · cases hitem
          exact Bool.eq_false_iff.mpr hhead

/-- Where no visible item is found, none is visible. -/
theorem firstVisible?_eq_none (h : firstVisible? visible sequence = none) (item : α)
    (hm : some item ∈ sequence) : visible item = false := by
  induction sequence with
  | nil => cases hm
  | cons place rest ih =>
    cases place with
    | none =>
      rw [firstVisible?, Option.map_eq_none_iff] at h
      exact ih h ((List.mem_cons.mp hm).resolve_left fun he => by cases he)
    | some head =>
      rw [firstVisible?] at h
      split at h
      · cases h
      · rename_i hhead
        rcases List.mem_cons.mp hm with he | hm
        · cases he
          exact Bool.eq_false_iff.mpr hhead
        · exact ih (Option.map_eq_none_iff.mp h) hm

/-- A visible item that is found stands at its index. -/
theorem firstVisible?_eq_some {index : Nat} {item : α}
    (h : firstVisible? visible sequence = some (index, item)) :
    visible item = true ∧ ∃ before after,
      sequence = before ++ some item :: after ∧ before.length = index := by
  induction sequence generalizing index with
  | nil => cases h
  | cons place rest ih =>
    have hlater : ∀ {found}, firstVisible? visible rest = some found →
        (found.1 + 1, found.2) = (index, item) →
        visible item = true ∧ ∃ before after,
          place :: rest = before ++ some item :: after ∧ before.length = index := by
      rintro ⟨earlier, other⟩ hfound he
      obtain ⟨rfl, rfl⟩ := Prod.mk.inj he
      obtain ⟨hvisible, before, after, hrest, hlength⟩ := ih hfound
      refine ⟨hvisible, place :: before, after, ?_, ?_⟩
      · rw [List.cons_append, ← hrest]
      · rw [List.length_cons, hlength]
    cases place with
    | none =>
      obtain ⟨found, hfound, he⟩ := Option.map_eq_some_iff.mp h
      exact hlater hfound he
    | some head =>
      rw [firstVisible?] at h
      split at h
      · rename_i hhead
        cases h
        exact ⟨hhead, [], rest, rfl, rfl⟩
      · obtain ⟨found, hfound, he⟩ := Option.map_eq_some_iff.mp h
        exact hlater hfound he

namespace Window

variable {window : Window α}

/-- The items of the window stand in the sequence, from its start on and without a hole. -/
def IsPartOf (window : Window α) (sequence : List (Option α)) : Prop :=
  ∃ before after, sequence = before ++ window.items.map some ++ after ∧
    before.length = window.start

/-- The window is a part of the sequence that begins and ends with visible items, and that has no
visible neighbour. It is empty, and starts at zero, only where nothing is visible. -/
structure Settled (visible : α → Bool) (sequence : List (Option α)) (window : Window α) :
    Prop where
  /-- The items stand in the sequence. -/
  part : window.IsPartOf sequence
  /-- The first item is visible. -/
  first : ∀ item, window.items.head? = some item → visible item = true
  /-- The last item is visible. -/
  last : ∀ item, window.items.getLast? = some item → visible item = true
  /-- The item before the window is not visible. -/
  before : ∀ index item, index + 1 = window.start → sequence[index]? = some (some item) →
    visible item = false
  /-- The item behind the window is not visible. -/
  after : ∀ item, sequence[window.start + window.items.length]? = some (some item) →
    visible item = false
  /-- A window without items means that nothing is visible. -/
  nothing : window.items = [] → window.start = 0 ∧ ∀ item, some item ∈ sequence →
    visible item = false

/-- A window without items at the start is a part of everything. -/
theorem isPartOf_empty (sequence : List (Option α)) : (empty : Window α).IsPartOf sequence :=
  ⟨[], sequence, rfl, rfl⟩

/-- Items put behind the sequence leave the window where it is. -/
theorem IsPartOf.append (h : window.IsPartOf sequence) (added : List (Option α)) :
    window.IsPartOf (sequence ++ added) := by
  obtain ⟨before, after, rfl, hstart⟩ := h
  exact ⟨before, after ++ added, (List.append_assoc _ _ _), hstart⟩

/-- Items put in front of the sequence move the window back by their number. -/
theorem IsPartOf.shifted (h : window.IsPartOf sequence) (added : List (Option α)) :
    (window.shifted added.length).IsPartOf (added ++ sequence) := by
  obtain ⟨before, after, rfl, hstart⟩ := h
  refine ⟨added ++ before, after, ?_, ?_⟩
  · simp only [Window.shifted, List.append_assoc]
  · rw [List.length_append, hstart, Window.shifted, Nat.add_comm]

/-- The items of a part stand at the indices from its start on. -/
theorem IsPartOf.getElem? (h : window.IsPartOf sequence) {index : Nat}
    (hindex : index < window.items.length) :
    sequence[window.start + index]? = window.items[index]?.map some := by
  obtain ⟨before, after, rfl, hstart⟩ := h
  rw [List.append_assoc, List.getElem?_append_right (by omega), hstart, Nat.add_sub_cancel_left,
    List.getElem?_append_left (by rwa [List.length_map]), List.getElem?_map]

/-- The items of a part are items of the sequence. -/
theorem IsPartOf.mem (h : window.IsPartOf sequence) {item : α} (hm : item ∈ window.items) :
    some item ∈ sequence := by
  obtain ⟨before, after, rfl, -⟩ := h
  exact List.mem_append_left _ (List.mem_append_right _ (List.mem_map_of_mem hm))

/-- Two parts with the same start and as many items are the same. -/
theorem IsPartOf.eq {other : Window α} (h : window.IsPartOf sequence)
    (h' : other.IsPartOf sequence) (hstart : window.start = other.start)
    (hlength : window.items.length = other.items.length) : window = other := by
  obtain ⟨before, after, hsequence, hbefore⟩ := h
  obtain ⟨before', after', hsequence', hbefore'⟩ := h'
  rw [hsequence, List.append_assoc, List.append_assoc] at hsequence'
  have hrest := (List.append_inj hsequence' (by omega)).2
  have hitems := (List.append_inj hrest (by rw [List.length_map, List.length_map, hlength])).1
  have hsame : window.items = other.items :=
    List.map_injective_iff.mpr (fun _ _ => Option.some.inj) hitems
  cases window
  cases other
  cases hstart
  cases hsame
  rfl

/-- A settled window that has items begins with a visible one. -/
theorem Settled.exists_start (h : window.Settled visible sequence) (hne : window.items ≠ []) :
    ∃ item, sequence[window.start]? = some (some item) ∧ visible item = true := by
  have hitem := h.part.getElem? (List.length_pos_iff.mpr hne)
  rw [← List.head?_eq_getElem?, List.head?_eq_some_head hne] at hitem
  exact ⟨_, hitem, h.first _ (List.head?_eq_some_head hne)⟩

/-- A settled window that has items ends with a visible one. -/
theorem Settled.exists_end (h : window.Settled visible sequence) (hne : window.items ≠ []) :
    ∃ item, sequence[window.start + (window.items.length - 1)]? = some (some item) ∧
      visible item = true := by
  have hitem := h.part.getElem? (Nat.sub_one_lt_of_lt (List.length_pos_iff.mpr hne))
  rw [← List.getLast?_eq_getElem?, List.getLast?_eq_some_getLast hne] at hitem
  exact ⟨_, hitem, h.last _ (List.getLast?_eq_some_getLast hne)⟩

/-- A settled window is empty exactly when nothing is visible. -/
theorem Settled.items_eq_nil_iff (h : window.Settled visible sequence) :
    window.items = [] ↔ ∀ item, some item ∈ sequence → visible item = false := by
  refine ⟨fun hempty => (h.nothing hempty).2, fun hnone => ?_⟩
  cases hitems : window.items with
  | nil => rfl
  | cons head rest =>
    have hhead := h.first head (by rw [hitems]; rfl)
    have hm : some head ∈ sequence := h.part.mem (by rw [hitems]; exact List.mem_cons_self)
    rw [hnone head hm] at hhead
    cases hhead

/-! ## Dropping items at the ends -/

/-- A window that loses all its items starts at zero. -/
theorem trim_of_nil (h : (window.trim visible).1.items = []) :
    (window.trim visible).1 = empty := by
  simp only [trim] at h ⊢
  rw [h]
  rfl

/-- Trimming drops invisible items at both ends until visible ones stand there. -/
theorem trim_cases (visible : α → Bool) (window : Window α) :
    ∃ front back, window.items = front ++ (window.trim visible).1.items ++ back ∧
      (∀ item ∈ front ++ back, visible item = false) ∧
      (window.trim visible).2 = (front ++ back.reverse).map .exited ∧
      ((window.trim visible).1.items ≠ [] →
        (window.trim visible).1.start = window.start + front.length) ∧
      (∀ item, (window.trim visible).1.items.head? = some item → visible item = true) ∧
      ∀ item, (window.trim visible).1.items.getLast? = some item → visible item = true := by
  simp only [trim]
  generalize hfront : window.items.takeWhile (fun item => !visible item) = front
  generalize hrest : window.items.dropWhile (fun item => !visible item) = rest
  generalize hback : rest.reverse.takeWhile (fun item => !visible item) = back
  generalize hkept : rest.reverse.dropWhile (fun item => !visible item) = kept
  have hitems : window.items = front ++ rest := by
    rw [← hfront, ← hrest, List.takeWhile_append_dropWhile]
  have hsplit : rest = kept.reverse ++ back.reverse := by
    rw [← List.reverse_append, ← hback, ← hkept, List.takeWhile_append_dropWhile,
      List.reverse_reverse]
  have hdropped : ∀ items : List α,
      ∀ item ∈ items.takeWhile (fun item => !visible item), visible item = false :=
    fun items item hm => by simpa using List.all_eq_true.mp List.all_takeWhile item hm
  have hstays : ∀ (items : List α) (item : α),
      (items.dropWhile fun item => !visible item).head? = some item → visible item = true := by
    intro items item hitem
    have hhead := List.head?_dropWhile_not (fun item => !visible item) items
    rw [hitem] at hhead
    simpa using hhead
  refine ⟨front, back.reverse, ?_, fun item hm => ?_, ?_, fun hne => ?_, fun item hitem => ?_,
    fun item hitem => ?_⟩
  · rw [hitems, hsplit, List.append_assoc]
  · rw [← hfront, ← hback, List.mem_append, List.mem_reverse] at hm
    exact hm.elim (hdropped _ item) (hdropped _ item)
  · rw [List.reverse_reverse]
  · rw [if_neg (by rwa [List.isEmpty_iff])]
  · -- What is dropped at the back stands behind the first item that is kept.
    apply hstays window.items
    rw [hrest, hsplit, List.head?_append, hitem]
    rfl
  · apply hstays rest.reverse
    rwa [hkept, ← List.getLast?_reverse]

/-- A part that is trimmed is a part. -/
theorem isPartOf_trim (h : window.IsPartOf sequence) :
    (window.trim visible).1.IsPartOf sequence := by
  obtain ⟨front, back, hitems, -, -, hstart, -⟩ := trim_cases visible window
  by_cases hempty : (window.trim visible).1.items = []
  · rw [trim_of_nil hempty]
    exact isPartOf_empty sequence
  · obtain ⟨before, after, rfl, hbefore⟩ := h
    refine ⟨before ++ front.map some, back.map some ++ after, ?_, ?_⟩
    · rw [hitems]
      simp only [List.map_append, List.append_assoc]
    · rw [hstart hempty, List.length_append, List.length_map, hbefore]

/-! ## Taking in neighbours -/

/-- Extending a part takes in the visible runs on both sides of it. -/
theorem extend_eq {before after : List (Option α)}
    (hsequence : sequence = before ++ window.items.map some ++ after)
    (hbefore : before.length = window.start) :
    window.extend visible sequence =
      (⟨(visibleRun visible before.reverse).reverse ++ window.items ++ visibleRun visible after,
          window.start - (visibleRun visible before.reverse).length⟩,
        (visibleRun visible after ++ visibleRun visible before.reverse).map .entered) := by
  have hdrop : sequence.drop (window.start + window.items.length) = after := by
    rw [hsequence, ← hbefore]
    exact List.drop_left' (by rw [List.length_append, List.length_map])
  have htake : sequence.take window.start = before := by
    rw [hsequence, List.append_assoc]
    exact List.take_left' hbefore
  have hle : window.start ≤ sequence.length := by
    rw [hsequence, List.length_append, List.length_append]
    omega
  simp only [extend, hdrop, htake, if_pos hle]

/-- A part with items is settled where it begins and ends with visible items, and what stands
beside it is not visible. -/
theorem settled_of_split (before after : List (Option α))
    (hsequence : sequence = before ++ window.items.map some ++ after)
    (hstart : before.length = window.start) (hne : window.items ≠ [])
    (hfirst : ∀ item, window.items.head? = some item → visible item = true)
    (hlast : ∀ item, window.items.getLast? = some item → visible item = true)
    (hbefore : ∀ item, before.getLast? = some (some item) → visible item = false)
    (hafter : ∀ item, after.head? = some (some item) → visible item = false) :
    window.Settled visible sequence where
  part := ⟨before, after, hsequence, hstart⟩
  first := hfirst
  last := hlast
  before index item hindex hitem := by
    apply hbefore item
    rw [hsequence, List.append_assoc, List.getElem?_append_left (by omega)] at hitem
    rw [List.getLast?_eq_getElem?, ← hitem]
    exact congrArg (before[·]?) (by omega)
  after item hitem := by
    apply hafter item
    rw [hsequence, ← hstart, List.getElem?_append_right (by simp), List.length_append,
      List.length_map, Nat.sub_self] at hitem
    rw [List.head?_eq_getElem?, hitem]
  nothing hempty := absurd hempty hne

/-- A part that begins and ends with visible items is settled once it was extended. -/
theorem settled_extend (h : window.IsPartOf sequence) (hne : window.items ≠ [])
    (hfirst : ∀ item, window.items.head? = some item → visible item = true)
    (hlast : ∀ item, window.items.getLast? = some item → visible item = true) :
    (window.extend visible sequence).1.Settled visible sequence := by
  obtain ⟨before, after, hsequence, hstart⟩ := h
  rw [extend_eq hsequence hstart]
  obtain ⟨ahead, hahead, hall, hend⟩ := visibleRun_cases visible before.reverse
  obtain ⟨beyond, hbeyond, hall', hend'⟩ := visibleRun_cases visible after
  generalize visibleRun visible before.reverse = taken at hahead hall ⊢
  generalize visibleRun visible after = taken' at hbeyond hall' ⊢
  have hsplit : before = ahead.reverse ++ taken.reverse.map some := by
    rw [← List.reverse_reverse before, hahead, List.reverse_append, List.map_reverse]
  refine settled_of_split ahead.reverse beyond ?_ ?_ ?_ ?_ ?_ ?_ hend'
  · rw [hsequence, hsplit, hbeyond]
    simp only [List.map_append, List.append_assoc]
  · rw [← hstart, hsplit, List.length_append, List.length_map, List.length_reverse,
      List.length_reverse, Nat.add_sub_cancel]
  · simp only [ne_eq, List.append_eq_nil_iff, hne, and_false, false_and, not_false_eq_true]
  · -- The first item was taken in, or it was the first before.
    intro item hitem
    rw [List.append_assoc, List.head?_append, List.head?_append_of_ne_nil _ hne,
      Option.or_eq_some_iff] at hitem
    rcases hitem with hitem | ⟨-, hitem⟩
    · exact hall item (List.mem_reverse.mp (List.mem_of_mem_head? hitem))
    · exact hfirst item hitem
  · intro item hitem
    rw [List.getLast?_append, Option.or_eq_some_iff] at hitem
    rcases hitem with hitem | ⟨-, hitem⟩
    · exact hall' item (List.mem_of_mem_getLast? hitem)
    · rw [List.getLast?_append_of_ne_nil _ hne] at hitem
      exact hlast item hitem
  · intro item hitem
    rw [List.getLast?_reverse] at hitem
    exact hend item hitem

/-! ## Following and building anew -/

/-- The window around the first visible item is settled, and so is the empty one where there is no
such item. -/
theorem settled_seed (visible : α → Bool) (sequence : List (Option α)) :
    (seed visible sequence).1.Settled visible sequence := by
  unfold seed
  cases hfound : firstVisible? visible sequence with
  | none =>
    have hnone := firstVisible?_eq_none hfound
    exact
      { part := isPartOf_empty sequence
        first := fun item hitem => by cases hitem
        last := fun item hitem => by cases hitem
        before := fun index item hindex => by cases hindex
        after := fun item hitem => hnone item (List.mem_of_getElem? hitem)
        nothing := fun _ => ⟨rfl, hnone⟩ }
  | some found =>
    obtain ⟨index, item⟩ := found
    obtain ⟨hvisible, before, after, hsequence, hlength⟩ := firstVisible?_eq_some hfound
    refine settled_extend ⟨before, after, ?_, hlength⟩ (List.cons_ne_nil _ _) ?_ ?_
    · rw [hsequence]
      simp only [List.map_cons, List.map_nil, List.append_assoc, List.cons_append, List.nil_append]
    · intro other hother
      cases hother
      exact hvisible
    · intro other hother
      cases hother
      exact hvisible

/-- Following a part gives a settled window. -/
theorem settled_follow (h : window.IsPartOf sequence) :
    (window.follow visible sequence).1.Settled visible sequence := by
  obtain ⟨front, back, -, -, -, -, hfirst, hlast⟩ := trim_cases visible window
  simp only [follow]
  split
  · exact settled_seed visible sequence
  · rename_i hne
    exact settled_extend (isPartOf_trim h) (fun he => hne (List.isEmpty_iff.mpr he)) hfirst hlast

/-- Building a window anew gives a settled one, whatever it was before. -/
theorem settled_rebuild [BEq α] (visible : α → Bool) (sequence : List (Option α))
    (window : Window α) : (window.rebuild visible sequence).1.Settled visible sequence :=
  settled_seed visible sequence

/-! ## Visible items that stand together -/

/-- The visible items are those between two parts of the sequence. -/
structure Together (visible : α → Bool) (before : List (Option α)) (shown : List α)
    (after : List (Option α)) : Prop where
  /-- Nothing before them is visible. -/
  before : ∀ item, some item ∈ before → visible item = false
  /-- They are visible. -/
  shown : ∀ item ∈ shown, visible item = true
  /-- Nothing behind them is visible. -/
  after : ∀ item, some item ∈ after → visible item = false

variable {before after : List (Option α)} {shown : List α}

/-- Between the two parts stand visible items. -/
theorem Together.exists_shown (h : Together visible before shown after)
    (hsequence : sequence = before ++ shown.map some ++ after) {index : Nat}
    (hle : before.length ≤ index) (hlt : index < before.length + shown.length) :
    ∃ item, sequence[index]? = some (some item) ∧ visible item = true := by
  obtain ⟨offset, rfl⟩ := Nat.exists_eq_add_of_le hle
  have hoffset : offset < shown.length := by omega
  have hpart : (⟨shown, before.length⟩ : Window α).IsPartOf sequence :=
    ⟨before, after, hsequence, rfl⟩
  have hitem := hpart.getElem? hoffset
  rw [List.getElem?_eq_getElem hoffset] at hitem
  exact ⟨shown[offset], hitem, h.shown _ (List.getElem_mem hoffset)⟩

/-- A visible item stands between the two parts. -/
theorem Together.index_of_visible (h : Together visible before shown after)
    (hsequence : sequence = before ++ shown.map some ++ after) {index : Nat} {item : α}
    (hitem : sequence[index]? = some (some item)) (hvisible : visible item = true) :
    before.length ≤ index ∧ index < before.length + shown.length := by
  have hshown : (before ++ shown.map some).length = before.length + shown.length := by
    rw [List.length_append, List.length_map]
  refine ⟨Nat.le_of_not_lt fun hlt => ?_, Nat.lt_of_not_le fun hle => ?_⟩
  · rw [hsequence, List.append_assoc, List.getElem?_append_left hlt] at hitem
    rw [h.before item (List.mem_of_getElem? hitem)] at hvisible
    cases hvisible
  · rw [hsequence, List.getElem?_append_right (by omega)] at hitem
    rw [h.after item (List.mem_of_getElem? hitem)] at hvisible
    cases hvisible

/-- A settled window that has items begins and ends where the visible items do. -/
theorem Settled.range_of_together (h : window.Settled visible sequence)
    (hsequence : sequence = before ++ shown.map some ++ after)
    (htogether : Together visible before shown after) (hne : window.items ≠ []) :
    window.start = before.length ∧ window.items.length = shown.length := by
  have hpos : 0 < window.items.length := List.length_pos_iff.mpr hne
  obtain ⟨first, hfirst, hfirstVisible⟩ := h.exists_start hne
  obtain ⟨final, hfinal, hfinalVisible⟩ := h.exists_end hne
  have hstart := htogether.index_of_visible hsequence hfirst hfirstVisible
  have hend := htogether.index_of_visible hsequence hfinal hfinalVisible
  -- What stands beside the window is not visible, so nothing is left on either side.
  have hleft : window.start ≤ before.length := by
    refine Nat.le_of_not_lt fun hlt => ?_
    have hbeside : before.length ≤ window.start - 1 := by omega
    obtain ⟨item, hitem, hvisible⟩ := htogether.exists_shown hsequence hbeside (by omega)
    rw [h.before _ item (by omega) hitem] at hvisible
    cases hvisible
  have hright : before.length + shown.length ≤ window.start + window.items.length := by
    refine Nat.le_of_not_lt fun hlt => ?_
    have hbeside : before.length ≤ window.start + window.items.length := by omega
    obtain ⟨item, hitem, hvisible⟩ := htogether.exists_shown hsequence hbeside hlt
    rw [h.after item hitem] at hvisible
    cases hvisible
  omega

/-- Where the visible items stand together, the settled window is made of exactly them. -/
theorem Settled.eq_of_together (h : window.Settled visible sequence)
    (hsequence : sequence = before ++ shown.map some ++ after)
    (htogether : Together visible before shown after) :
    window = ⟨shown, if shown = [] then 0 else before.length⟩ := by
  by_cases hshown : shown = []
  · have hnone : ∀ item, some item ∈ sequence → visible item = false := by
      intro item hm
      rw [hsequence, hshown, List.map_nil, List.append_nil, List.mem_append] at hm
      exact hm.elim (htogether.before item) (htogether.after item)
    have hempty := h.items_eq_nil_iff.mpr hnone
    rw [if_pos hshown, hshown, ← hempty, ← (h.nothing hempty).1]
  · have hsome : 0 < shown.length := List.length_pos_iff.mpr hshown
    have hne : window.items ≠ [] := by
      intro hempty
      obtain ⟨item, hitem, hvisible⟩ :=
        htogether.exists_shown hsequence (Nat.le_refl _) (Nat.lt_add_of_pos_right hsome)
      rw [(h.nothing hempty).2 item (List.mem_of_getElem? hitem)] at hvisible
      cases hvisible
    obtain ⟨hstart, hlength⟩ := h.range_of_together hsequence htogether hne
    rw [if_neg hshown]
    exact h.part.eq ⟨before, after, hsequence, rfl⟩ hstart hlength

end Window

end MediaGrid
