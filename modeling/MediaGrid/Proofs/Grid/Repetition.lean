import MediaGrid.Proofs.Grid.Epochs
import MediaGrid.Proofs.Grid.Selection
import MediaGrid.Proofs.Grid.Slots

/-!
# Operations that find nothing to do

Several operations go through a list of ids and pass over those that are as they should be. Where
all of them are, the operation returns nothing and leaves the grid alone; and after the operation
all of them are, also where an id was given twice or has no entry. The same is shown for the
addresses of a video, which are no list. The search text and the dialog are one comparison each and
need no lemma.
-/

namespace MediaGrid.Grid

variable {grid : Grid}

/-! ## Adding -/

/-- Nothing is added only if every artifact has an entry. -/
theorem contains_of_addAll_nil {refs : List Artifact} (h : (grid.addAll refs).1 = []) :
    ∀ ref ∈ refs, grid.contains ref.id = true := by
  intro ref hm
  by_contra hout
  have hunseen : ref.id ∈ grid.unseen refs :=
    mem_unseen.mpr ⟨⟨ref, hm, rfl⟩, Bool.eq_false_iff.mpr hout⟩
  rw [← added_addAll, h] at hunseen
  cases hunseen

/-- Artifacts that have entries are passed over. -/
theorem addAll_of_contains {refs : List Artifact}
    (h : ∀ ref ∈ refs, grid.contains ref.id = true) : grid.addAll refs = ([], grid) := by
  induction refs with
  | nil => rfl
  | cons ref rest ih =>
    obtain ⟨hin, hrest⟩ := List.forall_mem_cons.mp h
    have hadd : grid.add ref = grid := if_pos hin
    simp only [addAll, hadd, ih hrest, if_pos hin]

/-- An artifact that was to be added has an entry. -/
theorem contains_of_mem_addAll {refs : List Artifact} {ref : Artifact} (hm : ref ∈ refs) :
    (grid.addAll refs).2.contains ref.id = true := by
  have hgiven : (refs.find? (·.id == ref.id)).isSome :=
    List.find?_isSome.mpr ⟨ref, hm, beq_self_eq_true _⟩
  rw [contains, Table.contains_eq_isSome, ← find?, find?_addAll, Option.isSome_or,
    Option.isSome_map, hgiven, Bool.or_true]

/-! ## Dropping contents -/

section Unloading

variable {facet : ByteFacet} {ids : List ItemId}

/-- Where no content was dropped none was there. -/
theorem unload_of_none (h : (grid.unload facet ids).1.ids = []) :
    grid.unload facet ids = (⟨[], []⟩, grid) := by
  induction ids with
  | nil => rfl
  | cons id rest ih =>
    rw [unload] at h ⊢
    split at h
    · exact ih h
    · cases h

/-- Slots without a content are passed over. -/
theorem unload_of_empty (h : ∀ id ∈ ids, (grid.slotAt id facet).handle? = none) :
    grid.unload facet ids = (⟨[], []⟩, grid) := by
  induction ids with
  | nil => rfl
  | cons id rest ih =>
    obtain ⟨hid, hrest⟩ := List.forall_mem_cons.mp h
    have hnone : ((grid.find? id).bind fun entry => (entry.slot facet).handle?) = none := by
      cases hentry : grid.find? id with
      | none => rfl
      | some entry =>
        rw [slotAt_of_some hentry] at hid
        exact hid
    rw [unload, hnone]
    exact ih hrest

/-- A slot whose content was to be dropped has none. -/
theorem handle?_unload {id : ItemId} (hm : id ∈ ids) :
    ((grid.unload facet ids).2.slotAt id facet).handle? = none := by
  rw [slotAt_unload, if_pos ⟨rfl, hm⟩]
  cases grid.slotAt id facet <;> rfl

end Unloading

/-! ## Selecting -/

section Marking

variable {ids : Option (List ItemId)} {value : Bool}

/-- Entries whose flag is set are passed over. -/
theorem flag_of_set {ids : List ItemId}
    (h : ∀ id ∈ ids, ∀ entry, grid.find? id = some entry → entry.selected = value) :
    grid.flag value ids = ([], grid) := by
  induction ids with
  | nil => rfl
  | cons id rest ih =>
    obtain ⟨hid, hrest⟩ := List.forall_mem_cons.mp h
    rw [flag]
    split
    · exact ih hrest
    · rename_i entry hentry
      rw [if_pos (hid entry hentry)]
      exact ih hrest

/-- An entry whose flag was to be set has it set. -/
theorem selected_mark {id : ItemId} (hm : id ∈ ids.getD (grid.mark ids value).2.ids)
    {entry : Entry} (hentry : (grid.mark ids value).2.find? id = some entry) :
    entry.selected = value := by
  obtain ⟨entries, count, hmark⟩ := grid.exists_mark ids value
  have hids : (grid.mark ids value).2.ids = grid.ids := by rw [hmark]
  rw [hids] at hm
  rw [find?_mark] at hentry
  obtain ⟨old, -, rfl⟩ := Option.map_eq_some_iff.mp hentry
  rw [if_pos hm]

end Marking

/-! ## Videos -/

/-- Addresses are left alone where the entry is no video or has them already. -/
theorem setVideo?_eq_none_iff {id : ItemId} {urls : Option VideoLinks} :
    grid.setVideo? id urls = none ↔
      ∀ entry, grid.find? id = some entry → entry.ref.kind = .video → entry.video = urls := by
  unfold setVideo?
  cases hentry : grid.find? id with
  | none => simp
  | some entry =>
    simp only [Option.bind_eq_bind, Option.bind_some, Option.some.injEq, forall_eq']
    by_cases hkind : entry.ref.kind = .video <;> simp [hkind]

/-- A video whose addresses were to be set has them. -/
theorem video_setVideo {id : ItemId} {urls : Option VideoLinks} {entry : Entry}
    (hentry : ((grid.setVideo? id urls).getD grid).find? id = some entry)
    (hkind : entry.ref.kind = .video) : entry.video = urls := by
  cases hset : grid.setVideo? id urls with
  | none =>
    rw [hset] at hentry
    exact setVideo?_eq_none_iff.mp hset entry hentry hkind
  | some after =>
    rw [hset] at hentry
    unfold setVideo? at hset
    obtain ⟨old, hold, hset⟩ := Option.bind_eq_some_iff.mp hset
    rw [Option.ite_none_left_eq_some] at hset
    cases hset.2
    rw [Option.getD_some, find?, modify, Table.find?_modify, if_pos rfl, ← find?, hold] at hentry
    cases hentry
    rfl

/-! ## Claiming -/

/-- Slots that are loaded or claimed are not claimed again. -/
theorem claimAll_of_taken {facet : ByteFacet} {ids : List ItemId}
    (h : ∀ id ∈ ids, ∀ entry, grid.find? id = some entry → entry.slot facet ≠ .empty) :
    grid.claimAll facet ids = ([], grid) := by
  induction ids with
  | nil => rfl
  | cons id rest ih =>
    obtain ⟨hid, hrest⟩ := List.forall_mem_cons.mp h
    have hnone : grid.claimOne? facet id = none := by
      cases hone : grid.claimOne? facet id with
      | none => rfl
      | some claimed =>
        obtain ⟨entry, hentry, hempty, -, -⟩ := claimOne?_eq_some hone
        exact absurd hempty (hid entry hentry)
    rw [claimAll, hnone]
    exact ih hrest

/-- Nothing is claimed only if every slot is loaded or claimed. -/
theorem taken_of_claimAll_nil {facet : ByteFacet} {ids : List ItemId}
    (h : (grid.claimAll facet ids).1 = []) :
    ∀ id ∈ ids, ∀ entry, grid.find? id = some entry → entry.slot facet ≠ .empty := by
  induction ids with
  | nil => exact fun _ hm => absurd hm List.not_mem_nil
  | cons id rest ih =>
    rw [claimAll] at h
    split at h
    · rename_i hnone
      refine List.forall_mem_cons.mpr ⟨fun entry hentry hempty => ?_, ih h⟩
      simp [claimOne?, hentry, hempty] at hnone
    · cases h

/-- Metadata that is loaded or being asked for is not asked for again. -/
theorem claimRecords_of_taken {ids : List ItemId}
    (h : ∀ id ∈ ids, ∀ entry, grid.find? id = some entry → entry.metadata ≠ .empty) :
    grid.claimRecords ids = ([], grid) := by
  induction ids with
  | nil => rfl
  | cons id rest ih =>
    obtain ⟨hid, hrest⟩ := List.forall_mem_cons.mp h
    rw [claimRecords]
    split
    · exact ih hrest
    · rename_i entry hentry
      rw [if_neg (hid entry hentry)]
      exact ih hrest

/-- No metadata is asked for only if all of it is loaded or being asked for. -/
theorem taken_of_claimRecords_nil {ids : List ItemId} (h : (grid.claimRecords ids).1 = []) :
    ∀ id ∈ ids, ∀ entry, grid.find? id = some entry → entry.metadata ≠ .empty := by
  induction ids with
  | nil => exact fun _ hm => absurd hm List.not_mem_nil
  | cons id rest ih =>
    rw [claimRecords] at h
    split at h
    · rename_i hnone
      refine List.forall_mem_cons.mpr ⟨fun entry hentry => ?_, ih h⟩
      rw [hnone] at hentry
      cases hentry
    · rename_i found hfound
      split at h
      · cases h
      · rename_i htaken
        refine List.forall_mem_cons.mpr ⟨fun entry hentry => ?_, ih h⟩
        rw [hfound] at hentry
        cases hentry
        exact htaken

end MediaGrid.Grid
