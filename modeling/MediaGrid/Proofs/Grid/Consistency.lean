import MediaGrid.Proofs.Grid.Frame
import MediaGrid.Proofs.Grid.Membership
import MediaGrid.Proofs.Grid.Run

/-!
# Consistency of the grid

The grid keeps the same facts in several places: which entries there are in the table of
entries and in the view order, which are selected in the entries and in a count, how far the
query is in two page numbers. Every operation keeps them in agreement, whatever its
arguments, so they agree after every run. What the backend does with the pages, and the
contents of loaded facets, are no part of it.
-/

namespace MediaGrid.Grid

/-- The parts of the grid agree with each other. -/
structure Consistent (grid : Grid) : Prop where
  /-- No id comes twice in view order. -/
  nodup_ids : grid.ids.Nodup
  /-- The ids in view order are those that have an entry. -/
  mem_ids : ∀ id, id ∈ grid.ids ↔ grid.contains id = true
  /-- Every entry stands under the id of its artifact. -/
  id_ref : ∀ id entry, grid.find? id = some entry → entry.ref.id = id
  /-- The count of the selection is the number of selected entries. -/
  count_eq : grid.selectionCount = grid.countSelected
  /-- Images have no addresses of a video. -/
  no_video : ∀ id entry, grid.find? id = some entry → entry.ref.kind = .image → entry.video = none
  /-- The last merged page was asked for. -/
  page_le : ∀ active, grid.active = some active → active.page ≤ active.requested

/-- The empty grid is consistent. -/
theorem consistent_empty : empty.Consistent where
  nodup_ids := .nil
  mem_ids id := by simp [empty, contains, Table.contains, Table.empty]
  id_ref _ _ h := by cases h
  count_eq := rfl
  no_video _ _ h := by cases h
  page_le _ h := by cases h

/-- The count of selected entries is that of the flags. -/
theorem countSelected_eq (grid : Grid) :
    grid.countSelected =
      ((grid.entries.rows.map fun row => (row.1, row.2.selected)).filter (·.2)).length := by
  rw [List.filter_map, List.length_map]
  rfl

/-- An id has an entry exactly when its entry is found. -/
theorem contains_iff {grid : Grid} {id : ItemId} :
    grid.contains id = true ↔ ∃ entry, grid.find? id = some entry := by
  rw [contains, Table.contains_eq_isSome, Option.isSome_iff_exists]
  rfl

/-- The part of consistency that is about neither the selection nor videos. -/
structure Ordered (grid : Grid) : Prop where
  /-- No id comes twice in view order. -/
  nodup_ids : grid.ids.Nodup
  /-- The ids in view order are those that have an entry. -/
  mem_ids : ∀ id, id ∈ grid.ids ↔ grid.contains id = true
  /-- Every entry stands under the id of its artifact. -/
  id_ref : ∀ id entry, grid.find? id = some entry → entry.ref.id = id
  /-- The last merged page was asked for. -/
  page_le : ∀ active, grid.active = some active → active.page ≤ active.requested

theorem Consistent.ordered {grid : Grid} (hc : grid.Consistent) : grid.Ordered :=
  ⟨hc.nodup_ids, hc.mem_ids, hc.id_ref, hc.page_le⟩

section

variable {blank : Entry → Entry} {before after : Grid}

/-- A change of the contents of entries leaves order, ids and pages alone. -/
theorem SameUpTo.ordered (h : SameUpTo blank before after) (ho : before.Ordered)
    (href : ∀ entry, (blank entry).ref = entry.ref) : after.Ordered := by
  refine ⟨?_, ?_, ?_, ?_⟩
  · rw [h.ids_eq]
    exact ho.nodup_ids
  · intro id
    rw [h.ids_eq, h.contains_eq]
    exact ho.mem_ids id
  · intro id entry he
    obtain ⟨old, hold, hr⟩ := h.exists_before Entry.ref href he
    rw [← hr]
    exact ho.id_ref id old hold
  · intro active ha
    exact ho.page_le active (h.active_eq ▸ ha)

/-- A change that leaves videos alone gives no image a video. -/
theorem SameUpTo.no_video (h : SameUpTo blank before after) (hc : before.Consistent)
    (href : ∀ entry, (blank entry).ref = entry.ref)
    (hvideo : ∀ entry, (blank entry).video = entry.video) (id : ItemId) (entry : Entry)
    (he : after.find? id = some entry) (hk : entry.ref.kind = .image) : entry.video = none := by
  obtain ⟨old, hold, hview⟩ := h.exists_before (fun entry => (entry.ref, entry.video))
    (fun entry => by rw [href, hvideo]) he
  obtain ⟨hr, hv⟩ := Prod.mk.inj hview
  rw [← hv]
  exact hc.no_video id old hold (hr ▸ hk)

/-- A change that leaves the flags alone leaves their count alone. -/
theorem SameUpTo.count_eq (h : SameUpTo blank before after) (hc : before.Consistent)
    (hmark : ∀ entry, (blank entry).selected = entry.selected) :
    after.selectionCount = after.countSelected := by
  rw [h.selectionCount_eq, hc.count_eq, countSelected_eq, countSelected_eq,
    h.map_rows Entry.selected hmark]

/-- Consistency does not see what is loaded: a change of it alone keeps the grid consistent. -/
theorem SameUpTo.consistent (h : SameUpTo blank before after) (hc : before.Consistent)
    (href : ∀ entry, (blank entry).ref = entry.ref)
    (hmark : ∀ entry, (blank entry).selected = entry.selected)
    (hvideo : ∀ entry, (blank entry).video = entry.video) : after.Consistent :=
  { h.ordered hc.ordered href with
    count_eq := h.count_eq hc hmark
    no_video := h.no_video hc href hvideo }

/-- A change of the slots of a facet keeps the grid consistent. -/
theorem consistent_of_slots {facet : ByteFacet}
    (h : SameUpTo (Entry.withoutSlot facet) before after)
    (hc : before.Consistent) : after.Consistent :=
  h.consistent hc (fun _ => Entry.ref_setSlot _ _ _) (fun _ => Entry.selected_setSlot _ _ _)
    fun _ => Entry.video_setSlot _ _ _

/-- A change of metadata keeps the grid consistent. -/
theorem consistent_of_records (h : SameUpTo Entry.withoutMetadata before after)
    (hc : before.Consistent) : after.Consistent :=
  h.consistent hc (fun _ => rfl) (fun _ => rfl) fun _ => rfl

end

/-! ## The operations -/

/-- A change that concerns neither entries nor query keeps the grid consistent. -/
theorem Consistent.congr {grid grid' : Grid} (hc : grid.Consistent)
    (hentries : grid'.entries = grid.entries) (hids : grid'.ids = grid.ids)
    (hcount : grid'.selectionCount = grid.selectionCount) (hactive : grid'.active = grid.active) :
    grid'.Consistent := by
  refine ⟨?_, ?_, ?_, ?_, ?_, ?_⟩
  · rw [hids]
    exact hc.nodup_ids
  · intro id
    rw [hids, contains, hentries]
    exact hc.mem_ids id
  · intro id entry he
    rw [find?, hentries] at he
    exact hc.id_ref id entry he
  · rw [hcount, countSelected, hentries]
    exact hc.count_eq
  · intro id entry he
    rw [find?, hentries] at he
    exact hc.no_video id entry he
  · intro active ha
    exact hc.page_le active (hactive ▸ ha)

/-- A new entry is not selected. -/
theorem countSelected_add (grid : Grid) (ref : Artifact) :
    (grid.add ref).countSelected = grid.countSelected := by
  unfold add countSelected
  split
  · rfl
  · rename_i hc
    simp [Table.rows_insert hc, Entry.ofRef]

theorem consistent_add {grid : Grid} (hc : grid.Consistent) (ref : Artifact) :
    (grid.add ref).Consistent := by
  by_cases hin : grid.contains ref.id
  · rw [add, if_pos hin]
    exact hc
  have hids : (grid.add ref).ids = grid.ids ++ [ref.id] := by rw [add, if_neg hin]
  -- An entry after adding is an earlier one or that of the artifact itself.
  have hfound : ∀ id entry, (grid.add ref).find? id = some entry →
      grid.find? id = some entry ∨ id = ref.id ∧ entry = Entry.ofRef ref := by
    intro id entry he
    rw [find?_add, Option.or_eq_some_iff] at he
    rcases he with he | ⟨-, he⟩
    · exact Or.inl he
    · split at he
      · rename_i hid
        exact Or.inr ⟨hid, (Option.some.inj he).symm⟩
      · cases he
  refine ⟨?_, ?_, ?_, ?_, ?_, ?_⟩
  · rw [hids, List.nodup_append]
    refine ⟨hc.nodup_ids, by simp, fun a ha b hb => ?_⟩
    rw [List.mem_singleton.mp hb]
    exact fun he => hin ((hc.mem_ids ref.id).mp (he ▸ ha))
  · intro id
    rw [hids, List.mem_append, List.mem_singleton, hc.mem_ids, contains_iff, contains_iff]
    simp only [find?_add, Option.or_eq_some_iff]
    constructor
    · rintro (⟨entry, he⟩ | rfl)
      · exact ⟨entry, Or.inl he⟩
      · cases hold : grid.find? ref.id with
        | some entry => exact ⟨entry, Or.inl rfl⟩
        | none => exact ⟨Entry.ofRef ref, Or.inr ⟨rfl, if_pos rfl⟩⟩
    · rintro ⟨entry, he | ⟨-, he⟩⟩
      · exact Or.inl ⟨entry, he⟩
      · split at he
        · rename_i hid
          exact Or.inr hid
        · cases he
  · intro id entry he
    rcases hfound id entry he with he | ⟨rfl, rfl⟩
    · exact hc.id_ref id entry he
    · rfl
  · rw [countSelected_add, ← hc.count_eq]
    exact (congrArg Grid.selectionCount (add_rest grid ref) : _)
  · intro id entry he hk
    rcases hfound id entry he with he | ⟨rfl, rfl⟩
    · exact hc.no_video id entry he hk
    · rfl
  · intro active ha
    exact hc.page_le active ((congrArg Grid.active (add_rest grid ref) : _) ▸ ha)

theorem consistent_addAll {grid : Grid} (hc : grid.Consistent) (refs : List Artifact) :
    (grid.addAll refs).2.Consistent := by
  induction refs generalizing grid with
  | nil => exact hc
  | cons ref rest ih => exact ih (consistent_add hc ref)

theorem consistent_discard {grid : Grid} (hc : grid.Consistent) (ids : List ItemId) :
    (grid.discard ids).2.Consistent := by
  by_cases hnone : (grid.dropEntries ids).1.ids = []
  · rw [discard_of_none hnone]
    exact hc
  have hids : (grid.discard ids).2.ids =
      grid.ids.filter (· ∉ (grid.dropEntries ids).1.ids) := grid.ids_discard ids
  -- An entry that is left is an earlier one of an id that was not given.
  have hfound : ∀ id entry, (grid.discard ids).2.find? id = some entry ↔
      id ∉ ids ∧ grid.find? id = some entry := by
    intro id entry
    rw [find?_discard]
    split <;> simp [*]
  refine ⟨?_, ?_, ?_, ?_, ?_, ?_⟩
  · rw [hids]
    exact hc.nodup_ids.filter _
  · intro id
    rw [hids, List.mem_filter, hc.mem_ids, contains_iff, contains_iff]
    simp only [hfound, decide_eq_true_eq, mem_ids_dropEntries, not_and]
    constructor
    · rintro ⟨⟨entry, he⟩, hout⟩
      exact ⟨entry, fun hm => hout hm (by rw [he]; rfl), he⟩
    · rintro ⟨entry, hout, he⟩
      exact ⟨⟨entry, he⟩, fun hm => absurd hm hout⟩
  · intro id entry he
    exact hc.id_ref id entry ((hfound id entry).mp he).2
  · rw [discard_of_some hnone]
    rfl
  · intro id entry he
    exact hc.no_video id entry ((hfound id entry).mp he).2
  · intro active ha
    exact hc.page_le active (active_discard grid ids ▸ ha)

theorem consistent_clear {grid : Grid} (hc : grid.Consistent) (keepQuery : Bool) :
    (grid.clear keepQuery).2.Consistent where
  nodup_ids := .nil
  mem_ids id := consistent_empty.mem_ids id
  id_ref _ _ h := by cases h
  count_eq := rfl
  no_video _ _ h := by cases h
  page_le active h := by
    cases keepQuery with
    | true => exact hc.page_le active h
    | false => cases h

/-- Merging a page raises the highest requested page with the last merged one. -/
theorem page_le_merged {active : PagedQuery} (page : Page) :
    (active.merged page).page ≤ (active.merged page).requested :=
  Nat.le_max_right _ _

theorem consistent_mergePage {grid : Grid} (hc : grid.Consistent) (epoch : Nat) (page : Page) :
    (grid.mergePage epoch page).2.Consistent := by
  have hadd := consistent_addAll hc page.refs
  rcases hmerge : grid.mergePage epoch page with ⟨_ | merged, grid'⟩
  · rcases mergePage_eq_none hmerge with ⟨-, rfl⟩ | ⟨-, -, rfl⟩
    · exact hc
    · exact hadd
  · obtain ⟨-, active, -, rfl⟩ := mergePage_eq_some hmerge
    refine { hadd with page_le := ?_ }
    rintro _ ⟨⟩
    exact page_le_merged page

theorem consistent_askFurther {grid grid' : Grid} (hc : grid.Consistent) {page : Nat}
    {asked : List Query × Nat} (h : grid.askFurther? page = some (asked, grid')) :
    grid'.Consistent := by
  obtain ⟨active, -, -, hpage, -, -, rfl⟩ := askFurther?_eq_some_iff.mp h
  refine { hc with page_le := ?_ }
  rintro _ ⟨⟩
  exact Nat.le_of_lt hpage

theorem consistent_withdrawPage {grid grid' : Grid} (hc : grid.Consistent) {epoch : Nat}
    (h : grid.withdrawPage? epoch = some grid') : grid'.Consistent := by
  simp only [withdrawPage?] at h
  split at h
  · cases h
  · cases h
    refine { hc with page_le := ?_ }
    intro active ha
    obtain ⟨old, -, rfl⟩ := Option.map_eq_some_iff.mp ha
    exact Nat.le_refl _

/-- A selection that changed is counted anew, so the count need not be right before. -/
theorem consistent_mark {grid : Grid} (hc : grid.Consistent) (ids : Option (List ItemId))
    (value : Bool) : (grid.mark ids value).2.Consistent := by
  by_cases hnone : (grid.flag value (ids.getD grid.ids)).1 = []
  · rw [mark_of_none hnone]
    exact hc
  rw [mark_of_some hnone]
  have hflag := sameUpTo_flag grid value (ids.getD grid.ids)
  have hordered := hflag.ordered hc.ordered fun _ => rfl
  exact ⟨hordered.nodup_ids, hordered.mem_ids, hordered.id_ref, rfl,
    hflag.no_video hc (fun _ => rfl) fun _ => rfl, hordered.page_le⟩

/-- Only videos get addresses. -/
theorem consistent_setVideo {grid grid' : Grid} (hc : grid.Consistent) {id : ItemId}
    {urls : Option VideoLinks} (h : grid.setVideo? id urls = some grid') : grid'.Consistent := by
  have hsame := sameUpTo_setVideo h
  have hordered := hsame.ordered hc.ordered fun _ => rfl
  have hcount := hsame.count_eq hc fun _ => rfl
  refine { hordered with count_eq := hcount, no_video := fun other entry he hk => ?_ }
  simp only [setVideo?, Option.bind_eq_bind, Option.bind_eq_some_iff] at h
  obtain ⟨shown, hshown, h⟩ := h
  split at h
  · cases h
  · rename_i hguard
    cases h
    have hvideo : shown.ref.kind = .video :=
      Decidable.not_not.mp fun hkind => hguard (Or.inl hkind)
    rw [find?, modify, Table.find?_modify] at he
    split at he
    · rename_i hid
      subst hid
      rw [← find?, hshown] at he
      cases he
      exact absurd (hvideo.symm.trans hk) (by decide)
    · exact hc.no_video other entry he hk

/-! ## Runs -/

/-- Every operation keeps the grid consistent, whatever its arguments. -/
theorem consistent_act (grid : Grid) (action : GridAction) (hc : grid.Consistent) :
    (grid.act action).Consistent := by
  cases action with
  | add refs => exact consistent_addAll hc refs
  | discard ids => exact consistent_discard hc ids
  | clear keepQuery => exact consistent_clear hc keepQuery
  | openQuery queries page =>
    refine { hc with page_le := ?_ }
    rintro _ ⟨⟩
    exact Nat.le_refl page
  | askFurther page =>
    simp only [act]
    cases h : grid.askFurther? page with
    | none => exact hc
    | some asked => exact consistent_askFurther hc h
  | mergePage epoch page => exact consistent_mergePage hc epoch page
  | withdrawPage epoch =>
    simp only [act]
    cases h : grid.withdrawPage? epoch with
    | none => exact hc
    | some grid' => exact consistent_withdrawPage hc h
  | claim facet ids =>
    have hclaimed := consistent_of_slots (sameUpTo_claimAll grid facet ids) hc
    exact hclaimed.congr rfl rfl rfl rfl
  | fill facet claim handle =>
    simp only [act]
    cases h : grid.fill? facet claim (fun place : Unit => (handle, place)) () with
    | none => exact hc
    | some filled => exact consistent_of_slots (sameUpTo_fill h) hc
  | giveUp facet claim =>
    simp only [act]
    cases h : grid.giveUp? facet claim with
    | none => exact hc
    | some grid' => exact consistent_of_slots (sameUpTo_giveUp h) hc
  | unload facet ids => exact consistent_of_slots (sameUpTo_unload grid facet ids) hc
  | claimRecords ids => exact consistent_of_records (sameUpTo_claimRecords grid ids) hc
  | settleRecords claimed records =>
    exact consistent_of_records (sameUpTo_settleRecords grid claimed records) hc
  | giveUpRecords ids => exact consistent_of_records (sameUpTo_giveUpRecords grid ids) hc
  | amendRecords update ids =>
    exact consistent_of_records (sameUpTo_amendRecords grid update ids) hc
  | mark ids value => exact consistent_mark hc ids value
  | moveRequest kind state =>
    simp only [act, moveRequest?]
    split <;> exact hc.congr rfl rfl rfl rfl
  | beginOnSelection kind =>
    simp only [act, beginOnSelection?]
    split
    · exact hc
    · split <;> exact hc.congr rfl rfl rfl rfl
  | setVideo id urls =>
    simp only [act]
    cases h : grid.setVideo? id urls with
    | none => exact hc
    | some grid' => exact consistent_setVideo hc h
  | setSearch search menu =>
    simp only [act, setSearch?]
    split <;> exact hc.congr rfl rfl rfl rfl
  | setCompletions completions =>
    simp only [act, setCompletions?]
    split <;> exact hc.congr rfl rfl rfl rfl
  | setDialog isOpen =>
    simp only [act, setDialog?]
    split <;> exact hc.congr rfl rfl rfl rfl

/-- After any operations with any arguments, in any order, the parts of the grid agree: the
view order names each entry once and nothing else, every entry stands under its own id, the
selection is counted right, no image has addresses of a video, and no page was merged beyond
the highest that was asked for. -/
theorem consistent_run (actions : List GridAction) : (empty.run actions).Consistent :=
  run_keeps consistent_act consistent_empty actions

end MediaGrid.Grid
