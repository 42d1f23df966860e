import MediaGrid.Collection
import MediaGrid.Proofs.Store.RecordLoads

/-!
# Grids that list artifacts

A grid lists artifacts when its view has the id of each once, in their order, and the metadata of
every entry is the record of its artifact. A page that the collection answers is merged, and the
metadata of what it added is read; after both the grid lists the artifacts of the page behind the
others. Artifacts may repeat, within a page and across pages. Failures of the collection are no
part of it.
-/

namespace MediaGrid

namespace Grid

variable {grid : Grid} {ids : List ItemId} {id : ItemId}

/-! ## Claiming metadata and storing it -/

/-- A claim makes metadata be asked for where there is none. -/
theorem metadata?_claimRecords : (grid.claimRecords ids).2.metadata? id =
    if id ∈ ids ∧ grid.metadata? id = some .empty then some .pending else grid.metadata? id := by
  induction ids generalizing grid with
  | nil => simp [claimRecords]
  | cons head rest ih =>
    rw [claimRecords]
    cases hentry : grid.find? head with
    | none =>
      have hne : grid.metadata? id = some .empty → id ≠ head := by
        rintro hempty rfl
        rw [metadata?, hentry] at hempty
        cases hempty
      simp only [ih, List.mem_cons]
      by_cases hempty : grid.metadata? id = some .empty
      · simp [hempty, hne hempty]
      · simp [hempty]
    | some entry =>
      dsimp only
      by_cases hempty : entry.metadata = .empty
      · rw [if_pos hempty]
        simp only [ih, metadata?_setMetadata, List.mem_cons]
        by_cases hid : id = head
        · subst hid
          have hmetadata : grid.metadata? id = some .empty := by
            rw [metadata?, hentry, Option.map_some, hempty]
          simp [hmetadata]
        · simp [hid]
      · rw [if_neg hempty, ih]
        by_cases hid : id = head
        · subst hid
          have hmetadata : grid.metadata? id ≠ some .empty := by
            rwa [metadata?, hentry, Option.map_some, ne_eq, Option.some.injEq]
          simp [hmetadata]
        · simp [hid]

/-- A claim takes ids with the artifacts of their entries. -/
theorem ref_of_mem_claimRecords {row : ItemId × Artifact} (h : row ∈ (grid.claimRecords ids).1) :
    (grid.find? row.1).map Entry.ref = some row.2 := by
  induction ids generalizing grid with
  | nil => cases h
  | cons head rest ih =>
    rw [claimRecords] at h
    split at h
    · exact ih h
    · rename_i entry hentry
      split at h
      · rcases List.mem_cons.mp h with rfl | h
        · rw [hentry, Option.map_some]
        · rw [← (sameUpTo_setMetadata grid head .pending).find?_map Entry.ref fun _ => rfl]
          exact ih h
      · exact ih h

/-- Where metadata is asked for and a record of the id arrives, one is stored. -/
theorem metadata?_storeRecords_of_mem {records : List (Artifact × Metadata)} (hasks : grid.asks id)
    (hm : ∃ row ∈ records, row.1.id = id) :
    ∃ row ∈ records, row.1.id = id ∧
      (grid.storeRecords records).2.metadata? id = some (.loaded row.2) := by
  induction records generalizing grid with
  | nil => simp at hm
  | cons row rest ih =>
    by_cases hid : row.1.id = id
    · refine ⟨row, List.mem_cons_self, hid, ?_⟩
      have hstored : (grid.setMetadata id (.loaded row.2)).metadata? id =
          some (.loaded row.2) := by
        rw [metadata?_setMetadata, if_pos rfl, hasks, Option.map_some]
      have hnot : ¬(grid.setMetadata id (.loaded row.2)).asks id := by
        rw [asks, hstored]
        intro h
        cases h
      have hpending : grid.metadata? id = some .pending := hasks
      rw [storeRecords, hid, if_pos hpending, ← hstored]
      exact metadata?_storeRecords (Or.inr hnot)
    · obtain ⟨other, hother, hsame⟩ := hm
      have hrest : other ∈ rest := by
        rcases List.mem_cons.mp hother with rfl | hrest
        · exact absurd hsame hid
        · exact hrest
      have hkept : (grid.setMetadata row.1.id (.loaded row.2)).asks id := by
        rw [asks, metadata?_setMetadata, if_neg (Ne.symm hid)]
        exact hasks
      rw [storeRecords]
      split
      · obtain ⟨found, hfound, hfid, hloaded⟩ := ih hkept ⟨other, hrest, hsame⟩
        exact ⟨found, List.mem_cons_of_mem _ hfound, hfid, hloaded⟩
      · obtain ⟨found, hfound, hfid, hloaded⟩ := ih hasks ⟨other, hrest, hsame⟩
        exact ⟨found, List.mem_cons_of_mem _ hfound, hfid, hloaded⟩

end Grid

/-! ## Reading metadata -/

/-- The row that is found for an artifact is a row of it. -/
theorem Collection.artifact_of_row? {collection : Collection} {ref : Artifact}
    {row : Artifact × Metadata} (h : collection.row? ref = some row) : row.1 = ref :=
  beq_iff_eq.mp (List.find?_eq_some_iff_append.mp h).1

namespace Grid

variable (collection : Collection) {grid : Grid} {ids : List ItemId} {id : ItemId}

/-- The records that the collection answers for a claim. -/
def recordsFor (claimed : List (ItemId × Artifact)) : List (Artifact × Metadata) :=
  (claimed.map (·.2)).filterMap collection.row?

/-- The grid after the metadata of some ids was claimed, read and stored. -/
def describe (grid : Grid) (ids : List ItemId) : Grid :=
  let (claimed, claiming) := grid.claimRecords ids
  (claiming.settleRecords (claimed.map (·.1)) (recordsFor collection claimed)).2

variable {collection}

/-- Reading metadata changes metadata only. -/
theorem sameUpTo_describe (grid : Grid) (ids : List ItemId) :
    SameUpTo Entry.withoutMetadata grid (grid.describe collection ids) :=
  (sameUpTo_claimRecords grid ids).trans (sameUpTo_settleRecords _ _ _)

/-- Where nothing is claimed there is nothing to read. -/
theorem describe_of_nil (h : (grid.claimRecords ids).1 = []) :
    grid.describe collection ids = (grid.claimRecords ids).2 := by
  simp only [describe, h]
  rfl

/-- A record that is answered for a claim is that of an artifact of the claim. -/
theorem mem_recordsFor {claimed : List (ItemId × Artifact)} {row : Artifact × Metadata}
    (h : row ∈ recordsFor collection claimed) :
    ∃ target ∈ claimed, target.2 = row.1 ∧ collection.row? row.1 = some row := by
  obtain ⟨ref, href, hrow⟩ := List.mem_filterMap.mp h
  obtain ⟨target, htarget, rfl⟩ := List.mem_map.mp href
  have hsame := Collection.artifact_of_row? hrow
  exact ⟨target, htarget, hsame.symm, hsame ▸ hrow⟩

section

variable (hnamed : ∀ id entry, grid.find? id = some entry → entry.ref.id = id)
include hnamed

/-- The records that are answered for a claim have ids of the claim. -/
theorem id_of_mem_recordsFor {row : Artifact × Metadata}
    (h : row ∈ recordsFor collection (grid.claimRecords ids).1) :
    (row.1.id, row.1) ∈ (grid.claimRecords ids).1 := by
  obtain ⟨target, htarget, hsame, -⟩ := mem_recordsFor h
  have hid := id_of_mem_claimRecords hnamed htarget
  rw [← hsame, hid]
  exact htarget

/-- Metadata that is loaded stays as it is. -/
theorem metadata?_describe_of_loaded {record : Metadata}
    (h : grid.metadata? id = some (.loaded record)) :
    (grid.describe collection ids).metadata? id = some (.loaded record) := by
  have hclaimed : (grid.claimRecords ids).2.metadata? id = some (.loaded record) := by
    rw [metadata?_claimRecords, if_neg, h]
    rintro ⟨-, hempty⟩
    rw [h] at hempty
    cases hempty
  have hnot : ¬(grid.claimRecords ids).2.asks id := by
    rw [asks, hclaimed]
    intro h
    cases h
  rw [← hclaimed]
  refine metadata?_settleRecords (fun row hrow => ?_) (Or.inr hnot)
  exact List.mem_map_of_mem (f := Prod.fst) (id_of_mem_recordsFor hnamed hrow)

/-- Metadata that is not there is loaded, if the collection has the artifact. -/
theorem metadata?_describe_of_empty {entry : Entry} {row : Artifact × Metadata} (hid : id ∈ ids)
    (hentry : grid.find? id = some entry) (hempty : entry.metadata = .empty)
    (hrow : collection.row? entry.ref = some row) :
    (grid.describe collection ids).metadata? id = some (.loaded row.2) := by
  have hmetadata : grid.metadata? id = some .empty := by
    rw [metadata?, hentry, Option.map_some, hempty]
  have hasks : (grid.claimRecords ids).2.asks id := by
    rw [asks, metadata?_claimRecords, if_pos ⟨hid, hmetadata⟩]
  have hnot : ¬grid.asks id := by
    rw [asks, hmetadata]
    intro h
    cases h
  -- The claim holds the id with the artifact of its entry, and with no other.
  have hclaimed : ∀ ref, (id, ref) ∈ (grid.claimRecords ids).1 → ref = entry.ref := by
    intro ref hm
    have href := ref_of_mem_claimRecords hm
    rw [hentry, Option.map_some, Option.some.injEq] at href
    exact href.symm
  obtain ⟨target, htarget, rfl⟩ :=
    List.mem_map.mp ((asks_claimRecords hasks).resolve_left hnot)
  have hanswered : row ∈ recordsFor collection (grid.claimRecords ids).1 := by
    refine List.mem_filterMap.mpr ⟨entry.ref, ?_, hrow⟩
    rw [← hclaimed target.2 htarget]
    exact List.mem_map_of_mem (f := Prod.snd) htarget
  have hrowid : row.1.id = target.1 := by
    rw [Collection.artifact_of_row? hrow, hnamed target.1 entry hentry]
  obtain ⟨found, hfound, hfid, hstored⟩ :=
    metadata?_storeRecords_of_mem hasks ⟨row, hanswered, hrowid⟩
  have hsame : found = row := by
    obtain ⟨-, -, -, hfoundrow⟩ := mem_recordsFor hfound
    have hin := id_of_mem_recordsFor hnamed hfound
    rw [hfid] at hin
    rw [hclaimed found.1 hin, hrow, Option.some.injEq] at hfoundrow
    exact hfoundrow.symm
  rw [hsame] at hstored
  rw [← hstored]
  refine metadata?_giveUpRecords (Or.inr ?_)
  rw [asks, hstored]
  intro h
  cases h

end

/-! ## Listing a page more -/

/-- An id has an entry after adding if it had one or is that of an artifact that was given. -/
theorem contains_addAll {refs : List Artifact} (h : (grid.addAll refs).2.contains id = true) :
    grid.contains id = true ∨ id ∈ refs.map Artifact.id := by
  induction refs generalizing grid with
  | nil => exact Or.inl h
  | cons ref rest ih =>
    rw [List.map_cons, List.mem_cons]
    rcases ih h with hadded | hm
    · rw [contains_add, Bool.or_eq_true, beq_iff_eq] at hadded
      exact hadded.imp_right Or.inl
    · exact Or.inr (Or.inr hm)

/-- Where every entry stands under the id of its artifact, so does what is added. -/
theorem named_addAll (hnamed : ∀ id entry, grid.find? id = some entry → entry.ref.id = id)
    {refs : List Artifact} {entry : Entry}
    (hentry : (grid.addAll refs).2.find? id = some entry) : entry.ref.id = id := by
  rw [find?_addAll, Option.or_eq_some_iff] at hentry
  rcases hentry with hold | ⟨-, hnew⟩
  · exact hnamed id entry hold
  · obtain ⟨ref, href, rfl⟩ := Option.map_eq_some_iff.mp hnew
    exact beq_iff_eq.mp (List.find?_eq_some_iff_append.mp href).1

/-- A grid lists artifacts: the view has the id of each once, in their order, no other id has an
entry, and the metadata of every entry is the record of its artifact. -/
structure Lists (grid : Grid) (refs : List Artifact) (record? : Artifact → Option Metadata) :
    Prop where
  /-- The view has the ids of the artifacts. -/
  ids : grid.ids = (refs.map Artifact.id).eraseDups
  /-- Every entry is in view. -/
  shown : ∀ id, grid.contains id = true → id ∈ grid.ids
  /-- Every id in view has an entry, and its metadata is loaded. -/
  described : ∀ id ∈ grid.ids, ∃ entry record, grid.find? id = some entry ∧ entry.ref ∈ refs ∧
    entry.ref.id = id ∧ entry.metadata = .loaded record ∧ record? entry.ref = some record

/-- A grid without entries lists no artifacts. -/
theorem lists_nil {record? : Artifact → Option Metadata} (hids : grid.ids = [])
    (hentries : grid.entries = .empty) : grid.Lists [] record? where
  ids := hids
  shown id h := by
    rw [contains, hentries] at h
    cases h
  described id h := by
    rw [hids] at h
    cases h

namespace Lists

variable {refs : List Artifact} {record? : Artifact → Option Metadata}

/-- The ids that have an entry are those of the listed artifacts. -/
theorem contains_iff (h : grid.Lists refs record?) :
    grid.contains id = true ↔ id ∈ refs.map Artifact.id := by
  rw [← List.mem_eraseDups, ← h.ids]
  refine ⟨h.shown id, fun hm => ?_⟩
  obtain ⟨entry, record, hentry, -⟩ := h.described id hm
  rw [contains, Table.contains_eq_isSome, ← find?, hentry]
  rfl

/-- An entry stands under the id of its artifact. -/
theorem named (h : grid.Lists refs record?) {entry : Entry} (hentry : grid.find? id = some entry) :
    entry.ref.id = id := by
  have hc : grid.contains id = true := by
    rw [contains, Table.contains_eq_isSome, ← find?, hentry]
    rfl
  obtain ⟨found, record, hfound, -, hid, -⟩ := h.described id (h.shown id hc)
  rw [hentry, Option.some.injEq] at hfound
  rw [hfound, hid]

/-- The unseen ids of further artifacts are those that come to the view. -/
theorem ids_append (h : grid.Lists refs record?) (more : List Artifact) :
    grid.ids ++ grid.unseen more = ((refs ++ more).map Artifact.id).eraseDups := by
  have hunseen : (more.map Artifact.id).removeAll (refs.map Artifact.id) =
      (more.map Artifact.id).filter fun id => !grid.contains id := by
    refine List.filter_congr fun id _ => congrArg not ?_
    rw [Bool.eq_iff_iff, List.elem_iff, h.contains_iff]
  rw [List.map_append, List.eraseDups_append, hunseen, h.ids, unseen]

/-- A page whose metadata was read is listed behind the others. -/
theorem page (h : grid.Lists refs collection.recordOf?) {more : List Artifact}
    (hmore : ∀ ref ∈ more, (collection.row? ref).isSome = true) (active : Option PagedQuery) :
    (describe collection { (grid.addAll more).2 with active := active }
      (grid.unseen more)).Lists (refs ++ more) collection.recordOf? := by
  let merged : Grid := { (grid.addAll more).2 with active := active }
  have hnamed : ∀ id entry, merged.find? id = some entry → entry.ref.id = id :=
    fun _ _ hentry => named_addAll (fun _ _ => h.named) hentry
  have hsame : SameUpTo Entry.withoutMetadata merged
      (merged.describe collection (grid.unseen more)) := sameUpTo_describe merged _
  have hids : merged.ids = ((refs ++ more).map Artifact.id).eraseDups := by
    rw [← h.ids_append more, ← added_addAll]
    exact grid.ids_addAll more
  have hdescribed : ∀ id entry record, merged.find? id = some entry →
      (merged.describe collection (grid.unseen more)).metadata? id = some (.loaded record) →
      ∃ found, (merged.describe collection (grid.unseen more)).find? id = some found ∧
        found.ref = entry.ref ∧ found.metadata = .loaded record := by
    intro id entry record hentry hloaded
    obtain ⟨found, hfound, hmetadata⟩ := Option.map_eq_some_iff.mp hloaded
    obtain ⟨old, hold, href⟩ := hsame.exists_before Entry.ref (fun _ => rfl) hfound
    rw [hentry, Option.some.injEq] at hold
    exact ⟨found, hfound, by rw [← href, hold], hmetadata⟩
  refine ⟨hsame.ids_eq.trans hids, fun id hc => ?_, fun id hm => ?_⟩
  · rw [hsame.contains_eq] at hc
    rw [hsame.ids_eq, hids, List.mem_eraseDups, List.map_append, List.mem_append]
    exact (contains_addAll hc).imp_left h.contains_iff.mp
  · rw [hsame.ids_eq, hids, ← h.ids_append more, List.mem_append] at hm
    rcases hm with hold | hnew
    · obtain ⟨entry, record, hentry, href, hid, hloaded, hrecord⟩ := h.described id hold
      have hkept : merged.find? id = some entry := by
        refine (grid.find?_addAll more id).trans ?_
        rw [hentry, Option.some_or]
      have hmetadata : merged.metadata? id = some (.loaded record) := by
        rw [metadata?, hkept, Option.map_some, hloaded]
      obtain ⟨found, hfound, hsameref, hfoundrecord⟩ := hdescribed id entry record hkept
        (metadata?_describe_of_loaded hnamed hmetadata)
      rw [← hsameref] at href hid hrecord
      exact ⟨found, record, hfound, List.mem_append_left _ href, hid, hfoundrecord, hrecord⟩
    · obtain ⟨ref, href, hid, hentry⟩ := find?_unseen hnew
      obtain ⟨row, hrow⟩ := Option.isSome_iff_exists.mp (hmore ref href)
      obtain ⟨found, hfound, hsameref, hfoundrecord⟩ := hdescribed id (.ofRef ref) row.2 hentry
        (metadata?_describe_of_empty hnamed hnew hentry rfl hrow)
      have hrecord : collection.recordOf? ref = some row.2 := by
        rw [Collection.recordOf?, hrow, Option.map_some]
      have hfoundref : found.ref = ref := hsameref
      rw [← hfoundref] at href hid hrecord
      exact ⟨found, row.2, hfound, List.mem_append_right _ href, hid, hfoundrecord, hrecord⟩

end Lists

end Grid

end MediaGrid
