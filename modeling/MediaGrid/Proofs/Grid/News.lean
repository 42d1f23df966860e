import MediaGrid.Event
import MediaGrid.Proofs.Grid.Debts
import MediaGrid.Proofs.Grid.Epochs
import MediaGrid.Proofs.Grid.Slots

/-!
# What the events tell about the grid

A subscriber who heard every event can keep a mirror of the grid: the ids in view order, each
with its flag and its loaded facets, the states of the requests, the search and the dialog.
Every operation of the grid has its news, the events that tell of it, and hearing them turns
the mirror of the grid before the operation into that of the grid after it. Slots that wait,
contents, records, the active query and the addresses of videos have no place in the mirror.
-/

namespace MediaGrid

/-- What the events tell about an entry: its flag, and which of its facets are loaded. -/
structure Seen where
  /-- Whether the entry is selected. -/
  selected : Bool
  /-- Whether the small image is loaded. -/
  thumbnail : Bool
  /-- Whether the full-sized image is loaded. -/
  image : Bool
  /-- Whether the metadata is loaded. -/
  metadata : Bool
  deriving DecidableEq, Repr

namespace Seen

/-- What is known of an entry that is new. -/
def blank : Seen := ⟨false, false, false, false⟩

/-- Notes that a facet was loaded or dropped. -/
def setLoaded (seen : Seen) (value : Bool) : Facet → Seen
  | .thumbnail => { seen with thumbnail := value }
  | .image => { seen with image := value }
  | .metadata => { seen with metadata := value }

/-- Notes that the entry was selected or deselected. -/
def setSelected (seen : Seen) (value : Bool) : Seen := { seen with selected := value }

/-- Noting the same twice makes no difference. -/
theorem setLoaded_setLoaded (seen : Seen) (value : Bool) (facet : Facet) :
    (seen.setLoaded value facet).setLoaded value facet = seen.setLoaded value facet := by
  cases facet <;> rfl

end Seen

/-- What a subscriber knows who heard the events so far. -/
structure Mirror where
  /-- The ids in view order, with what is known about their entries. -/
  entries : List (ItemId × Seen)
  /-- The states of the requests. -/
  requests : Requests
  /-- The search text. -/
  search : String
  /-- The menu that goes with it. -/
  menu : Menu
  /-- Its completions. -/
  completions : List String
  /-- Whether the edit dialog is open. -/
  dialogOpen : Bool
  deriving DecidableEq, Repr

namespace Mirror

/-- What is known before any event. -/
def blank : Mirror := ⟨[], .idle, "", .closed, [], false⟩

/-- Notes a change of the entries of some ids, as far as they are in the view. -/
def change (mirror : Mirror) (ids : List ItemId) (note : Seen → Seen) : Mirror :=
  { mirror with
    entries := mirror.entries.map fun row => if row.1 ∈ ids then (row.1, note row.2) else row }

/-- Takes note of an event. -/
def hear (mirror : Mirror) : Event → Mirror
  | .added ids => { mirror with entries := mirror.entries ++ ids.map fun id => (id, .blank) }
  | .removed ids => { mirror with entries := mirror.entries.filter (·.1 ∉ ids) }
  | .facetLoaded id facet => mirror.change [id] (·.setLoaded true facet)
  | .facetDropped ids facet => mirror.change ids (·.setLoaded false facet)
  | .described ids => mirror.change ids (·.setLoaded true .metadata)
  | .selected ids value _ => mirror.change ids (·.setSelected value)
  | .requestMoved kind state => { mirror with requests := mirror.requests.set kind state }
  | .pageMerged _ _ => mirror
  | .viewCleared _ => { mirror with entries := [] }
  | .searched search menu completions =>
    { mirror with search := search, menu := menu, completions := completions }
  | .dialogMoved isOpen => { mirror with dialogOpen := isOpen }
  | .videoChanged _ => mirror

/-- Takes note of several events in order. -/
def hearAll (mirror : Mirror) (events : List Event) : Mirror := events.foldl hear mirror

theorem hearAll_append (mirror : Mirror) (early late : List Event) :
    mirror.hearAll (early ++ late) = (mirror.hearAll early).hearAll late :=
  List.foldl_append

/-- A change of no entry changes nothing. -/
@[simp]
theorem change_nil (mirror : Mirror) (note : Seen → Seen) : mirror.change [] note = mirror := by
  simp [change]

@[simp]
theorem hear_added_nil (mirror : Mirror) : mirror.hear (.added []) = mirror := by
  simp [hear]

@[simp]
theorem hear_removed_nil (mirror : Mirror) : mirror.hear (.removed []) = mirror := by
  rw [hear, List.filter_eq_self.mpr fun row _ => by simp]

@[simp]
theorem hear_facetDropped_nil (mirror : Mirror) (facet : Facet) :
    mirror.hear (.facetDropped [] facet) = mirror :=
  mirror.change_nil (·.setLoaded false facet)

@[simp]
theorem hear_described_nil (mirror : Mirror) : mirror.hear (.described []) = mirror :=
  mirror.change_nil (·.setLoaded true .metadata)

@[simp]
theorem hear_selected_nil (mirror : Mirror) (value : Bool) (count : Nat) :
    mirror.hear (.selected [] value count) = mirror :=
  mirror.change_nil (·.setSelected value)

end Mirror

/-- The events about some ids: one, unless there are none. -/
def eventsFor (ids : List ItemId) (event : List ItemId → Event) : List Event :=
  if ids.isEmpty then [] else [event ids]

/-- Where hearing of no ids makes no difference, the events about ids are heard as one. -/
theorem Mirror.hearAll_eventsFor {mirror : Mirror} (event : List ItemId → Event)
    (h : mirror.hear (event []) = mirror) (ids : List ItemId) :
    mirror.hearAll (eventsFor ids event) = mirror.hear (event ids) := by
  unfold eventsFor
  split
  · rename_i hempty
    rw [List.isEmpty_iff.mp hempty, h]
    rfl
  · rfl

namespace GridAction

/-- Whether an action may change the selection by itself: it marks or removes entries. -/
def marks : GridAction → Bool
  | .mark _ _ => true
  | .discard _ => true
  | _ => false

/-- Whether an action puts a request into a state. -/
def movesRequest : GridAction → Bool
  | .moveRequest _ _ => true
  | _ => false

end GridAction

namespace Entry

/-- What the events have to tell about an entry. -/
def seen (entry : Entry) : Seen :=
  ⟨entry.selected, entry.status .thumbnail == .loaded, entry.status .image == .loaded,
    entry.status .metadata == .loaded⟩

/-- Of a slot that is set it is seen whether it is loaded. -/
theorem seen_setSlot (entry : Entry) (facet : ByteFacet) (slot : ByteSlot) :
    (entry.setSlot facet slot).seen =
      entry.seen.setLoaded (slot.status == .loaded) facet.facet := by
  cases facet <;> rfl

/-- Noting what is seen already makes no difference. -/
theorem setLoaded_seen (entry : Entry) (facet : ByteFacet) :
    entry.seen.setLoaded ((entry.slot facet).status == .loaded) facet.facet = entry.seen := by
  cases facet <;> rfl

/-- A slot that is set where nothing is loaded, and loads nothing, is not seen. -/
theorem seen_setSlot_same {entry : Entry} {facet : ByteFacet} {slot : ByteSlot}
    (hslot : slot.status ≠ .loaded) (h : (entry.slot facet).status ≠ .loaded) :
    (entry.setSlot facet slot).seen = entry.seen := by
  have hsame := entry.setLoaded_seen facet
  rw [beq_eq_false_iff_ne.mpr h] at hsame
  rw [seen_setSlot, beq_eq_false_iff_ne.mpr hslot, hsame]

end Entry

namespace Grid

/-- What the events have to tell about the entry of an id. -/
def see (grid : Grid) (id : ItemId) : Seen := ((grid.find? id).map Entry.seen).getD .blank

/-- What there is to know about the grid for who heard every event. -/
def mirror (grid : Grid) : Mirror where
  entries := grid.ids.map fun id => (id, grid.see id)
  requests := grid.requests
  search := grid.search
  menu := grid.menu
  completions := grid.completions
  dialogOpen := grid.dialogOpen

/-- The events that tell of an action, in order. An action that changes nothing has none. -/
def news (grid : Grid) : GridAction → List Event
  | .add refs => eventsFor (grid.addAll refs).1 .added
  | .discard ids =>
    let (removal, grid') := grid.discard ids
    eventsFor removal.ids .removed ++
      eventsFor removal.ids (.selected · false grid'.selectionCount)
  | .clear keepQuery =>
    .viewCleared keepQuery ::
      if (grid.clear keepQuery).1.querySettled then [.requestMoved .query .idle] else []
  | .mergePage epoch page =>
    match (grid.mergePage epoch page).1 with
    | none => []
    | some merged => eventsFor merged.added .added ++ [.pageMerged merged.page merged.hasMore]
  | .fill facet claim _ =>
    if grid.awaits facet claim then [.facetLoaded claim.id facet.facet] else []
  | .unload facet ids => eventsFor (grid.unload facet ids).1.ids (.facetDropped · facet.facet)
  | .settleRecords claimed records => eventsFor (grid.settleRecords claimed records).1 .described
  | .amendRecords update ids => eventsFor (grid.amendRecords update ids).1 .described
  | .mark ids value =>
    let (changed, grid') := grid.mark ids value
    eventsFor changed (.selected · value grid'.selectionCount)
  | .moveRequest kind state =>
    if grid.requests.get kind = state then [] else [.requestMoved kind state]
  | .beginOnSelection kind =>
    if (grid.beginOnSelection? kind).isSome then [.requestMoved kind .loading] else []
  | .setVideo id urls => if (grid.setVideo? id urls).isSome then [.videoChanged id] else []
  | .setSearch search menu =>
    ((grid.setSearch? search menu).map fun grid' =>
      Event.searched grid'.search grid'.menu grid'.completions).toList
  | .setCompletions completions =>
    ((grid.setCompletions? completions).map fun grid' =>
      Event.searched grid'.search grid'.menu grid'.completions).toList
  | .setDialog isOpen =>
    if (grid.setDialog? isOpen).isSome then [.dialogMoved isOpen] else []
  | .openQuery _ _ => []
  | .askFurther _ => []
  | .withdrawPage _ => []
  | .claim _ _ => []
  | .giveUp _ _ => []
  | .claimRecords _ => []
  | .giveUpRecords _ => []

/-! ## What is seen of the entries -/

/-- A change of an entry is seen as what it notes of that entry. -/
theorem see_modify (note : Seen → Seen) {grid : Grid} {head : ItemId} {entry : Entry}
    (hentry : grid.find? head = some entry) {change : Entry → Entry}
    (hnote : (change entry).seen = note entry.seen) (id : ItemId) :
    (grid.modify head change).see id =
      if id = head then note (grid.see id) else grid.see id := by
  rw [see, find?, modify, Table.find?_modify, ← find?]
  by_cases h : id = head
  · subst h
    rw [if_pos rfl, if_pos rfl, see, hentry]
    exact hnote
  · rw [if_neg h, if_neg h]
    rfl

/-- A change that shows nothing is not seen. -/
theorem see_modify_same {grid : Grid} {head : ItemId} {change : Entry → Entry}
    (h : ∀ entry, grid.find? head = some entry → (change entry).seen = entry.seen)
    (id : ItemId) : (grid.modify head change).see id = grid.see id := by
  cases hentry : grid.find? head with
  | some entry =>
    rw [see_modify (fun seen => seen) hentry (h entry hentry), ite_self]
  | none =>
    rw [see, find?, modify, Table.find?_modify, ← find?]
    by_cases hid : id = head
    · rw [if_pos hid, hid, hentry, see, hentry]
      rfl
    · rw [if_neg hid]
      rfl

/-- Changing the entry of one id and then those of others is seen as one change of them all, if
noting it twice makes no difference. -/
theorem changed_cons (note : Seen → Seen) (hnote : ∀ seen, note (note seen) = note seen)
    (id head : ItemId) (rest : List ItemId) (seen : Seen) :
    (if id ∈ rest then note (if id = head then note seen else seen)
      else if id = head then note seen else seen) =
      if id ∈ head :: rest then note seen else seen := by
  by_cases hid : id = head <;> by_cases hrest : id ∈ rest <;> simp [hid, hrest, hnote]

/-- Nothing is known of an entry that is new, as of an id without one. -/
theorem see_addAll (grid : Grid) (refs : List Artifact) (id : ItemId) :
    (grid.addAll refs).2.see id = grid.see id := by
  rw [see, find?_addAll, see]
  cases grid.find? id with
  | some entry => rfl
  | none =>
    cases refs.find? (·.id == id) with
    | none => rfl
    | some ref => rfl

theorem see_of_not_contains {grid : Grid} {id : ItemId} (h : grid.contains id = false) :
    grid.see id = .blank := by
  rw [contains, Table.contains_eq_isSome] at h
  rw [see, find?, Option.isNone_iff_eq_none.mp (Option.isSome_eq_false_iff.mp h)]
  rfl

/-- What does not concern flags and facets is not seen. -/
theorem SameUpTo.see_eq {blank : Entry → Entry} {before after : Grid}
    (h : SameUpTo blank before after) (hv : ∀ entry, (blank entry).seen = entry.seen)
    (id : ItemId) : after.see id = before.see id := by
  rw [see, see, h.find?_map Entry.seen hv id]

/-- A slot that turns from empty into waiting or back is not seen. -/
theorem see_claimAll (grid : Grid) (facet : ByteFacet) (ids : List ItemId) (id : ItemId) :
    (grid.claimAll facet ids).2.see id = grid.see id := by
  induction ids generalizing grid with
  | nil => rfl
  | cons head rest ih =>
    rw [claimAll]
    cases hone : grid.claimOne? facet head with
    | none => exact ih grid
    | some claimed =>
      obtain ⟨claim, grid'⟩ := claimed
      obtain ⟨entry, hentry, hempty, -, rfl⟩ := claimOne?_eq_some hone
      refine (ih _).trans (see_modify_same (fun found hfound => ?_) id)
      cases hentry.symm.trans hfound
      exact Entry.seen_setSlot_same (fun he => by cases he) (by rw [hempty]; decide)

theorem see_giveUp {grid grid' : Grid} {facet : ByteFacet} {claim : Claim}
    (h : grid.giveUp? facet claim = some grid') (id : ItemId) : grid'.see id = grid.see id := by
  obtain ⟨hawaits, rfl⟩ := giveUp?_eq_some h
  refine see_modify_same (fun entry hentry => ?_) id
  have hslot := (slotAt_of_some hentry facet).symm.trans (awaits_iff.mp hawaits)
  exact Entry.seen_setSlot_same (fun he => by cases he) fun he => by rw [hslot] at he; cases he

/-- A content that is accepted is seen as loaded. -/
theorem see_fill {σ : Type} {grid grid' : Grid} {facet : ByteFacet} {claim : Claim}
    {create : σ → Handle × σ} {place place' : σ}
    (h : grid.fill? facet claim create place = some (grid', place')) (id : ItemId) :
    grid'.see id =
      if id ∈ [claim.id] then (grid.see id).setLoaded true facet.facet else grid.see id := by
  obtain ⟨hawaits, -, rfl⟩ := fill?_eq_some h
  have hslot : grid.slotAt claim.id facet ≠ .empty := by
    rw [awaits_iff.mp hawaits]
    exact ByteSlot.noConfusion
  obtain ⟨entry, hentry⟩ := exists_entry_of_slotAt hslot
  rw [see_modify (·.setLoaded true facet.facet) hentry (entry.seen_setSlot facet _)]
  simp only [List.mem_singleton]

/-- Contents that are dropped are seen as not loaded. -/
theorem see_unload (grid : Grid) (facet : ByteFacet) (ids : List ItemId) (id : ItemId) :
    (grid.unload facet ids).2.see id =
      if id ∈ (grid.unload facet ids).1.ids then (grid.see id).setLoaded false facet.facet
      else grid.see id := by
  induction ids generalizing grid with
  | nil => rfl
  | cons head rest ih =>
    rw [unload]
    split
    · exact ih grid
    · rename_i handle hsome
      obtain ⟨entry, hentry, -⟩ := Option.bind_eq_some_iff.mp hsome
      refine (ih _).trans ?_
      rw [see_modify (·.setLoaded false facet.facet) hentry (entry.seen_setSlot facet .empty)]
      exact changed_cons (·.setLoaded false facet.facet)
        (fun seen => seen.setLoaded_setLoaded false facet.facet) _ _ _ _

/-- Metadata that turns from absent into asked for or back is not seen. -/
theorem see_setMetadata_same {grid : Grid} {head : ItemId} {slot : MetadataSlot}
    (hslot : slot.status ≠ .loaded)
    (h : ∀ entry, grid.find? head = some entry → entry.metadata.status ≠ .loaded) (id : ItemId) :
    (grid.setMetadata head slot).see id = grid.see id := by
  refine see_modify_same (fun entry hentry => ?_) id
  have hold := beq_eq_false_iff_ne.mpr (h entry hentry)
  simp only [Entry.seen, Entry.status, beq_eq_false_iff_ne.mpr hslot, hold]

theorem see_claimRecords (grid : Grid) (ids : List ItemId) (id : ItemId) :
    (grid.claimRecords ids).2.see id = grid.see id := by
  induction ids generalizing grid with
  | nil => rfl
  | cons head rest ih =>
    rw [claimRecords]
    split
    · exact ih grid
    · rename_i entry hentry
      split
      · rename_i hempty
        refine (ih _).trans (see_setMetadata_same (by decide) (fun found hfound => ?_) id)
        cases hentry.symm.trans hfound
        rw [hempty]
        decide
      · exact ih grid

theorem see_giveUpRecords (grid : Grid) (ids : List ItemId) (id : ItemId) :
    (grid.giveUpRecords ids).see id = grid.see id := by
  induction ids generalizing grid with
  | nil => rfl
  | cons head rest ih =>
    rw [giveUpRecords, List.foldl_cons]
    refine (ih _).trans ?_
    split
    · rename_i hasks
      refine see_setMetadata_same (by decide) (fun entry hentry => ?_) id
      have hpending : entry.metadata = .pending := by
        rw [metadata?, hentry] at hasks
        exact Option.some.inj hasks
      rw [hpending]
      decide
    · rfl

/-- A record that is stored is seen as loaded metadata. -/
theorem see_setRecord {grid : Grid} {head : ItemId} {slot : MetadataSlot}
    (h : grid.metadata? head = some slot) (record : Metadata) (id : ItemId) :
    (grid.setMetadata head (.loaded record)).see id =
      if id = head then (grid.see id).setLoaded true .metadata else grid.see id := by
  obtain ⟨entry, hentry, -⟩ := Option.map_eq_some_iff.mp h
  exact see_modify (·.setLoaded true .metadata) hentry rfl id

theorem see_storeRecords (grid : Grid) (records : List (Artifact × Metadata)) (id : ItemId) :
    (grid.storeRecords records).2.see id =
      if id ∈ (grid.storeRecords records).1 then (grid.see id).setLoaded true .metadata
      else grid.see id := by
  induction records generalizing grid with
  | nil => rfl
  | cons row rest ih =>
    rw [storeRecords]
    split
    · rename_i hasks
      refine (ih _).trans ?_
      rw [see_setRecord hasks]
      exact changed_cons (·.setLoaded true .metadata)
        (fun seen => seen.setLoaded_setLoaded true .metadata) _ _ _ _
    · exact ih grid

theorem see_amendRecords (grid : Grid) (update : Metadata) (ids : List ItemId) (id : ItemId) :
    (grid.amendRecords update ids).2.see id =
      if id ∈ (grid.amendRecords update ids).1 then (grid.see id).setLoaded true .metadata
      else grid.see id := by
  induction ids generalizing grid with
  | nil => rfl
  | cons head rest ih =>
    rw [amendRecords]
    split
    · rename_i record hloaded
      refine (ih _).trans ?_
      rw [see_setRecord hloaded]
      exact changed_cons (·.setLoaded true .metadata)
        (fun seen => seen.setLoaded_setLoaded true .metadata) _ _ _ _
    · exact ih grid

/-- Flags that are set are seen so. -/
theorem see_flag (grid : Grid) (value : Bool) (ids : List ItemId) (id : ItemId) :
    (grid.flag value ids).2.see id =
      if id ∈ (grid.flag value ids).1 then (grid.see id).setSelected value
      else grid.see id := by
  induction ids generalizing grid with
  | nil => rfl
  | cons head rest ih =>
    rw [flag]
    split
    · exact ih grid
    · rename_i entry hentry
      split
      · exact ih grid
      · refine (ih _).trans ?_
        rw [see_modify (·.setSelected value) hentry rfl]
        exact changed_cons (·.setSelected value) (fun _ => rfl) _ _ _ _

/-! ## What is heard of an action -/

section

variable {blank : Entry → Entry} {before after : Grid}

/-- What changes entries alone is heard as the change that is seen of them. -/
theorem SameUpTo.mirror_eq (h : SameUpTo blank before after) (ids : List ItemId)
    (note : Seen → Seen)
    (hsee : ∀ id, after.see id = if id ∈ ids then note (before.see id) else before.see id) :
    before.mirror.change ids note = after.mirror := by
  have hmirror : after.mirror =
      { before.mirror with entries := before.ids.map fun id => (id, after.see id) } := by
    rw [h.rest]
    rfl
  rw [hmirror, Mirror.change, mirror, List.map_map]
  congr 1
  refine List.map_congr_left fun id _ => ?_
  rw [Function.comp_apply, hsee]
  split <;> rfl

/-- What is not seen is not heard of either. -/
theorem SameUpTo.mirror_same (h : SameUpTo blank before after)
    (hsee : ∀ id, after.see id = before.see id) : before.mirror = after.mirror := by
  have hnone := h.mirror_eq [] (fun seen => seen) fun id =>
    (hsee id).trans (if_neg List.not_mem_nil).symm
  rwa [Mirror.change_nil] at hnone

end

/-- New entries are heard of as added behind the others. -/
theorem hear_added (grid : Grid) (refs : List Artifact) :
    grid.mirror.hear (.added (grid.addAll refs).1) = (grid.addAll refs).2.mirror := by
  have hrest := congrArg (fun other : Grid =>
    { other.mirror with entries := (grid.addAll refs).2.mirror.entries }) (grid.addAll_rest refs)
  refine Eq.trans ?_ hrest.symm
  -- A new id is heard of as blank, and that is what is seen of it before and after.
  have hnew : ∀ id ∈ (grid.addAll refs).1, grid.see id = .blank := by
    intro id hm
    rw [added_addAll] at hm
    exact see_of_not_contains (mem_unseen.mp hm).2
  simp only [Mirror.hear, mirror, ids_addAll, List.map_append, see_addAll]
  congr 2
  exact List.map_congr_left fun id hm => by rw [hnew id hm]

/-- What is not removed is seen as before. -/
theorem see_discard {grid : Grid} {ids : List ItemId} {id : ItemId}
    (h : id ∉ (grid.discard ids).1.ids) : (grid.discard ids).2.see id = grid.see id := by
  rw [see, find?_removed, if_neg h, see]

/-- Removed entries are heard of with everything about them, so that what is said about their
flags concerns nobody. -/
theorem hear_removed (grid : Grid) (ids : List ItemId) (count : Nat) :
    (grid.mirror.hear (.removed (grid.discard ids).1.ids)).hear
        (.selected (grid.discard ids).1.ids false count) =
      (grid.discard ids).2.mirror := by
  have hrest := congrArg (fun other : Grid =>
    { other.mirror with entries := (grid.discard ids).2.mirror.entries }) (grid.discard_rest ids)
  refine Eq.trans ?_ hrest.symm
  simp only [Mirror.hear, Mirror.change, mirror, ids_discard, List.filter_map, List.map_map]
  congr 1
  refine List.map_congr_left fun id hm => ?_
  have hout : id ∉ (grid.discard ids).1.ids := by simpa using (List.mem_filter.mp hm).2
  rw [Function.comp_apply, if_neg hout, see_discard hout]

/-- A page finds its query: there is one in the epoch in which the page was asked for. -/
def Finds (grid : Grid) : GridAction → Prop
  | .mergePage epoch _ => epoch = grid.epoch → grid.active.isSome
  | _ => True

theorem hearAll_discard (grid : Grid) (ids : List ItemId) :
    grid.mirror.hearAll (grid.news (.discard ids)) = (grid.discard ids).2.mirror := by
  rw [news, Mirror.hearAll_append,
    Mirror.hearAll_eventsFor .removed (Mirror.hear_removed_nil _),
    Mirror.hearAll_eventsFor (.selected · false _) (Mirror.hear_selected_nil _ _ _)]
  exact grid.hear_removed ids _

/-- A page that finds its query is heard of as added entries, and one that is out of date is not
heard of. -/
theorem hearAll_mergePage {grid : Grid} {epoch : Nat} {page : Page}
    (h : epoch = grid.epoch → grid.active.isSome) :
    grid.mirror.hearAll (grid.news (.mergePage epoch page)) =
      (grid.mergePage epoch page).2.mirror := by
  by_cases hepoch : epoch = grid.epoch
  · obtain ⟨active, hactive⟩ := Option.isSome_iff_exists.mp (h hepoch)
    have hmerge := mergePage_current hactive page
    rw [← added_addAll] at hmerge
    simp only [news, hepoch, hmerge]
    rw [Mirror.hearAll_append, Mirror.hearAll_eventsFor .added (Mirror.hear_added_nil _),
      hear_added]
    rfl
  · simp only [news, mergePage_stale hepoch]
    rfl

/-- A content is heard of if and only if it is accepted. -/
theorem hearAll_fill (grid : Grid) (facet : ByteFacet) (claim : Claim) (handle : Handle) :
    grid.mirror.hearAll (grid.news (.fill facet claim handle)) =
      (grid.act (.fill facet claim handle)).mirror := by
  have hsome := grid.isSome_fill? facet claim (fun place : Unit => (handle, place)) ()
  simp only [news, act]
  cases hfill : grid.fill? facet claim (fun place : Unit => (handle, place)) () with
  | none =>
    rw [hfill] at hsome
    rw [← hsome]
    rfl
  | some filled =>
    rw [hfill] at hsome
    rw [← hsome]
    exact (sameUpTo_fill hfill).mirror_eq _ (·.setLoaded true facet.facet) (see_fill hfill)

theorem hearAll_mark (grid : Grid) (ids : Option (List ItemId)) (value : Bool) :
    grid.mirror.hearAll (grid.news (.mark ids value)) = (grid.mark ids value).2.mirror := by
  have hflag := grid.sameUpTo_flag value (ids.getD grid.ids)
  have hmirror : (grid.mark ids value).2.mirror =
      (grid.flag value (ids.getD grid.ids)).2.mirror := by
    simp only [mark]
    split <;> rfl
  exact (Mirror.hearAll_eventsFor (.selected · value _) (Mirror.hear_selected_nil _ _ _) _).trans
    ((hflag.mirror_eq _ (·.setSelected value) (grid.see_flag value _)).trans hmirror.symm)

/-- Hearing the news of an action turns the mirror of the grid into that of the grid after it. -/
theorem hearAll_news {grid : Grid} {action : GridAction} (h : grid.Finds action) :
    grid.mirror.hearAll (grid.news action) = (grid.act action).mirror := by
  cases action with
  | add refs =>
    exact (Mirror.hearAll_eventsFor .added (Mirror.hear_added_nil _) _).trans (grid.hear_added refs)
  | discard ids => exact grid.hearAll_discard ids
  | clear keepQuery =>
    by_cases hsettled : grid.requests.query = .loading <;>
      simp [news, act, clear, hsettled, Mirror.hearAll, Mirror.hear, mirror]
  | openQuery queries page => rfl
  | askFurther page =>
    simp only [news, act]
    cases hask : grid.askFurther? page with
    | none => rfl
    | some asked =>
      obtain ⟨active, -, -, -, -, -, hgrid⟩ := askFurther?_eq_some_iff.mp hask
      rw [Option.map_some, Option.getD_some, hgrid]
      rfl
  | mergePage epoch page => exact hearAll_mergePage h
  | withdrawPage epoch =>
    simp only [news, act, withdrawPage?]
    split <;> rfl
  | claim facet ids =>
    have hsame := grid.sameUpTo_claimAll facet ids
    exact hsame.mirror_same fun id => grid.see_claimAll facet ids id
  | fill facet claim handle => exact grid.hearAll_fill facet claim handle
  | giveUp facet claim =>
    simp only [news, act]
    cases hgive : grid.giveUp? facet claim with
    | none => rfl
    | some grid' => exact (sameUpTo_giveUp hgive).mirror_same (see_giveUp hgive)
  | unload facet ids =>
    exact (Mirror.hearAll_eventsFor (.facetDropped · facet.facet)
      (Mirror.hear_facetDropped_nil _ _) _).trans
      ((grid.sameUpTo_unload facet ids).mirror_eq _ (·.setLoaded false facet.facet)
        (grid.see_unload facet ids))
  | claimRecords ids =>
    exact (grid.sameUpTo_claimRecords ids).mirror_same (grid.see_claimRecords ids)
  | settleRecords claimed records =>
    exact (Mirror.hearAll_eventsFor .described (Mirror.hear_described_nil _) _).trans
      ((grid.sameUpTo_settleRecords claimed records).mirror_eq _ (·.setLoaded true .metadata)
        fun id => (see_giveUpRecords _ claimed id).trans (grid.see_storeRecords records id))
  | giveUpRecords ids =>
    exact (grid.sameUpTo_giveUpRecords ids).mirror_same (grid.see_giveUpRecords ids)
  | amendRecords update ids =>
    exact (Mirror.hearAll_eventsFor .described (Mirror.hear_described_nil _) _).trans
      ((grid.sameUpTo_amendRecords update ids).mirror_eq _ (·.setLoaded true .metadata)
        (grid.see_amendRecords update ids))
  | mark ids value => exact grid.hearAll_mark ids value
  | moveRequest kind state =>
    simp only [news, act, moveRequest?]
    split <;> rfl
  | beginOnSelection kind =>
    simp only [news, act, beginOnSelection?]
    split
    · rfl
    · split <;> rfl
  | setVideo id urls =>
    simp only [news, act]
    cases hset : grid.setVideo? id urls with
    | none => rfl
    | some grid' =>
      have hsame := sameUpTo_setVideo hset
      exact hsame.mirror_same fun id => hsame.see_eq (fun _ => rfl) id
  | setSearch search menu =>
    simp only [news, act, setSearch?]
    split <;> rfl
  | setCompletions completions =>
    simp only [news, act, setCompletions?]
    split <;> rfl
  | setDialog isOpen =>
    simp only [news, act, setDialog?]
    split <;> rfl

/-- An event among those about some ids is the one about them. -/
theorem eq_of_mem_eventsFor {ids : List ItemId} {event : List ItemId → Event} {other : Event}
    (h : other ∈ eventsFor ids event) : other = event ids := by
  unfold eventsFor at h
  split at h
  · cases h
  · exact List.mem_singleton.mp h

/-- What is said about the selection comes from an action that marks or removes entries, and
goes with the count after it. -/
theorem count_of_mem_news {grid : Grid} {action : GridAction} {ids : List ItemId} {value : Bool}
    {count : Nat} (h : .selected ids value count ∈ grid.news action) :
    action.marks = true ∧ count = (grid.act action).selectionCount := by
  cases action with
  | mark others flag =>
    simp only [news] at h
    cases eq_of_mem_eventsFor h
    exact ⟨rfl, rfl⟩
  | discard others =>
    rcases List.mem_append.mp h with h | h
    · cases eq_of_mem_eventsFor h
    · cases eq_of_mem_eventsFor h
      exact ⟨rfl, rfl⟩
  | add refs => cases eq_of_mem_eventsFor h
  | unload facet others =>
    simp only [news] at h
    cases eq_of_mem_eventsFor h
  | settleRecords claimed records => cases eq_of_mem_eventsFor h
  | amendRecords update others => cases eq_of_mem_eventsFor h
  | mergePage epoch page =>
    simp only [news] at h
    split at h
    · cases h
    · rcases List.mem_append.mp h with h | h
      · cases eq_of_mem_eventsFor h
      · simp at h
  | _ => simp [news] at h

/-! ## Runs -/

/-- The events that tell of actions taken one after the other. -/
def newsOf (grid : Grid) : List GridAction → List Event
  | [] => []
  | action :: rest => grid.news action ++ (grid.act action).newsOf rest

/-- Every page of a run finds its query. -/
def FindsAll (grid : Grid) : List GridAction → Prop
  | [] => True
  | action :: rest => grid.Finds action ∧ (grid.act action).FindsAll rest

theorem newsOf_append (grid : Grid) (early late : List GridAction) :
    grid.newsOf (early ++ late) = grid.newsOf early ++ (grid.run early).newsOf late := by
  induction early generalizing grid with
  | nil => rfl
  | cons action rest ih =>
    rw [List.cons_append, newsOf, newsOf, ih, List.append_assoc]
    rfl

theorem findsAll_append {grid : Grid} {early late : List GridAction} :
    grid.FindsAll (early ++ late) ↔ grid.FindsAll early ∧ (grid.run early).FindsAll late := by
  induction early generalizing grid with
  | nil => exact (true_and _).symm.to_iff
  | cons action rest ih =>
    rw [List.cons_append, FindsAll, FindsAll, ih, and_assoc]
    rfl

/-- Who hears the news of a run knows the grid that it leads to. -/
theorem hearAll_newsOf {grid : Grid} {actions : List GridAction} (h : grid.FindsAll actions) :
    grid.mirror.hearAll (grid.newsOf actions) = (grid.run actions).mirror := by
  induction actions generalizing grid with
  | nil => rfl
  | cons action rest ih =>
    rw [newsOf, Mirror.hearAll_append, hearAll_news h.1]
    exact ih h.2

/-- Nothing that marks or removes entries comes before anything else than moves of requests. -/
def MarksLast (actions : List GridAction) : Prop :=
  actions.Pairwise fun action later => action.marks = true → later.movesRequest = true

/-- Moving requests leaves the selection alone. -/
theorem selectionCount_run_moves {grid : Grid} {actions : List GridAction}
    (h : ∀ action ∈ actions, action.movesRequest = true) :
    (grid.run actions).selectionCount = grid.selectionCount := by
  induction actions generalizing grid with
  | nil => rfl
  | cons action rest ih =>
    have hrest : ((grid.act action).run rest).selectionCount = (grid.act action).selectionCount :=
      ih fun later hm => h later (List.mem_cons_of_mem _ hm)
    refine hrest.trans ?_
    cases action with
    | moveRequest kind state => rw [act, grid.getD_moveRequest]
    | _ => cases h _ List.mem_cons_self

/-- What is said about the selection in a run that marks last goes with the count at its end. -/
theorem count_of_mem_newsOf {grid : Grid} {actions : List GridAction} (hlast : MarksLast actions)
    {ids : List ItemId} {value : Bool} {count : Nat}
    (h : .selected ids value count ∈ grid.newsOf actions) :
    count = (grid.run actions).selectionCount := by
  induction actions generalizing grid with
  | nil => cases h
  | cons action rest ih =>
    obtain ⟨hfirst, hrest⟩ := List.pairwise_cons.mp hlast
    rcases List.mem_append.mp h with h | h
    · obtain ⟨hmarks, hcount⟩ := count_of_mem_news h
      exact hcount.trans (selectionCount_run_moves fun later hm => hfirst later hm hmarks).symm
    · exact ih hrest h

end Grid

end MediaGrid
