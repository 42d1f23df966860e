import MediaGrid.Proofs.Artifact.Ids
import MediaGrid.Proofs.Grid.Asked

/-!
# Entries that are up to date

An entry is up to date when it stands under the id of its artifact and a record that it has loaded
is the one given for the artifact. What gives the records is free: it may be a backend, and it may
change. Adding, dropping and claiming keep entries up to date, storing records does so when they
are right, and amending a grid that has the update already leaves it as it is.
-/

namespace MediaGrid

namespace Table

variable {κ α : Type} [DecidableEq κ]

/-- A change that leaves the value of its key as it is changes nothing. -/
theorem modify_of_same {table : Table κ α} {key : κ} {change : α → α}
    (h : ∀ value, table.find? key = some value → change value = value) :
    table.modify key change = table := by
  obtain ⟨rows, distinct⟩ := table
  simp only [modify, modifyRows, mk.injEq]
  refine (List.map_congr_left fun row hm => ?_).trans (List.map_id _)
  by_cases hkey : row.1 = key
  · have hvalue := h row.2 (hkey ▸ mem_rows_iff.mp hm)
    simp [hkey, hvalue, Prod.ext_iff]
  · simp [hkey]

end Table

/-- An entry stands under the id of its artifact, and its record is the one given for it. -/
structure Entry.UpToDate (record? : Artifact → Option Metadata) (id : ItemId) (entry : Entry) :
    Prop where
  /-- The id is that of the artifact. -/
  named : entry.ref.id = id
  /-- A record that is loaded is the one given for the artifact. -/
  record : ∀ record, entry.metadata = .loaded record → record? entry.ref = some record

namespace Grid

/-- Every entry of a grid is up to date. -/
def UpToDate (record? : Artifact → Option Metadata) (grid : Grid) : Prop :=
  ∀ id entry, grid.find? id = some entry → entry.UpToDate record? id

variable {record? record?' : Artifact → Option Metadata} {grid before after : Grid}

/-- A grid without entries is up to date with anything. -/
theorem upToDate_of_empty (h : grid.entries = .empty) : grid.UpToDate record? := by
  intro id entry hentry
  rw [find?, h] at hentry
  cases hentry

namespace UpToDate

/-- What leaves the entries alone leaves them up to date. -/
theorem of_entries (h : before.UpToDate record?) (hsame : after.entries = before.entries) :
    after.UpToDate record? := fun id entry hentry => by
  rw [find?, hsame] at hentry
  exact h id entry hentry

/-- What changes neither artifacts nor metadata leaves entries up to date. -/
theorem of_sameUpTo (h : before.UpToDate record?) {blank : Entry → Entry}
    (hsame : SameUpTo blank before after)
    (hview : ∀ entry, ((blank entry).ref, (blank entry).metadata) = (entry.ref, entry.metadata)) :
    after.UpToDate record? := by
  intro id entry hentry
  obtain ⟨old, hold, heq⟩ :=
    hsame.exists_before (fun entry => (entry.ref, entry.metadata)) hview hentry
  obtain ⟨href, hmetadata⟩ := Prod.mk.inj heq
  have hdate := h id old hold
  exact ⟨href ▸ hdate.named, fun record hloaded =>
    href ▸ hdate.record record (hmetadata.trans hloaded)⟩

/-- Where records are only added to those that are given, entries stay up to date. -/
theorem mono (h : grid.UpToDate record?)
    (hkeeps : ∀ ref record, record? ref = some record → record?' ref = some record) :
    grid.UpToDate record?' := fun id entry hentry =>
  ⟨(h id entry hentry).named, fun record hloaded =>
    hkeeps _ _ ((h id entry hentry).record record hloaded)⟩

/-- Setting the metadata of an entry to a record needs the right record. -/
theorem setMetadata (h : grid.UpToDate record?) {id : ItemId} {slot : MetadataSlot}
    (hslot : ∀ entry record, grid.find? id = some entry → slot = .loaded record →
      record? entry.ref = some record) : (grid.setMetadata id slot).UpToDate record? := by
  intro other entry hentry
  rw [find?, Grid.setMetadata, modify, Table.find?_modify] at hentry
  split at hentry
  · rename_i hid
    subst hid
    obtain ⟨old, hold, rfl⟩ := Option.map_eq_some_iff.mp hentry
    exact ⟨(h other old hold).named, fun record hloaded => hslot old record hold hloaded⟩
  · exact h other entry hentry

theorem addAll (h : grid.UpToDate record?) (refs : List Artifact) :
    (grid.addAll refs).2.UpToDate record? := by
  intro id entry hentry
  rw [find?_addAll, Option.or_eq_some_iff] at hentry
  rcases hentry with hold | ⟨-, hnew⟩
  · exact h id entry hold
  · obtain ⟨ref, href, rfl⟩ := Option.map_eq_some_iff.mp hnew
    refine ⟨beq_iff_eq.mp (List.find?_eq_some_iff_append.mp href).1, fun record hloaded => ?_⟩
    cases hloaded

/-- Entries whose artifacts lost their record have to go. -/
theorem discard (h : grid.UpToDate record?) {ids : List ItemId}
    (hkept : ∀ ref, ref.id ∉ ids → record?' ref = record? ref) :
    (grid.discard ids).2.UpToDate record?' := by
  intro id entry hentry
  rw [find?_discard] at hentry
  split at hentry
  · cases hentry
  · rename_i hid
    have hdate := h id entry hentry
    refine ⟨hdate.named, fun record hloaded => ?_⟩
    rw [hkept entry.ref (by rwa [hdate.named])]
    exact hdate.record record hloaded

theorem mark (h : grid.UpToDate record?) (ids : Option (List ItemId)) (value : Bool) :
    (grid.mark ids value).2.UpToDate record? := by
  have hflag := h.of_sameUpTo (grid.sameUpTo_flag value (ids.getD grid.ids)) fun _ => rfl
  unfold Grid.mark
  dsimp only
  split
  · exact hflag
  · exact hflag.of_entries rfl

theorem claimRecords (h : grid.UpToDate record?) (ids : List ItemId) :
    (grid.claimRecords ids).2.UpToDate record? := by
  induction ids generalizing grid with
  | nil => exact h
  | cons id rest ih =>
    rw [Grid.claimRecords]
    split
    · exact ih h
    · split
      · exact ih (h.setMetadata fun _ _ _ hslot => by cases hslot)
      · exact ih h

theorem giveUpRecords (h : grid.UpToDate record?) (ids : List ItemId) :
    (grid.giveUpRecords ids).UpToDate record? := by
  induction ids generalizing grid with
  | nil => exact h
  | cons id rest ih =>
    rw [Grid.giveUpRecords, List.foldl_cons]
    split
    · exact ih (h.setMetadata fun _ _ _ hslot => by cases hslot)
    · exact ih h

/-- Storing records that are right leaves entries up to date: a record goes to the entry of its
artifact, since no other artifact has the id. -/
theorem storeRecords (h : grid.UpToDate record?) {records : List (Artifact × Metadata)}
    (hrecords : ∀ row ∈ records, record? row.1 = some row.2) :
    (grid.storeRecords records).2.UpToDate record? := by
  induction records generalizing grid with
  | nil => exact h
  | cons row rest ih =>
    have hrest : ∀ row ∈ rest, record? row.1 = some row.2 :=
      fun other hm => hrecords other (List.mem_cons_of_mem _ hm)
    rw [Grid.storeRecords]
    split
    · refine ih (h.setMetadata fun entry record hentry hloaded => ?_) hrest
      cases hloaded
      rw [Artifact.eq_of_id_eq (h row.1.id entry hentry).named]
      exact hrecords row List.mem_cons_self
    · exact ih h hrest

theorem settleRecords (h : grid.UpToDate record?) (claimed : List ItemId)
    {records : List (Artifact × Metadata)}
    (hrecords : ∀ row ∈ records, record? row.1 = some row.2) :
    (grid.settleRecords claimed records).2.UpToDate record? :=
  (h.storeRecords hrecords).giveUpRecords claimed

/-- Amending changes nothing where the records of the artifacts have the update already. -/
theorem amendRecords_eq (h : grid.UpToDate record?) {update : Metadata} {ids : List ItemId}
    (hamended : ∀ ref record, ref.id ∈ ids → record? ref = some record →
      record.amend update = record) : (grid.amendRecords update ids).2 = grid := by
  induction ids with
  | nil => rfl
  | cons id rest ih =>
    have hrest := ih fun ref record hm => hamended ref record (List.mem_cons_of_mem _ hm)
    rw [Grid.amendRecords]
    split
    · rename_i record hloaded
      obtain ⟨entry, hentry, hmetadata⟩ := Option.map_eq_some_iff.mp hloaded
      have hdate := h id entry hentry
      have hsame : record.amend update = record :=
        hamended entry.ref record (hdate.named ▸ List.mem_cons_self)
          (hdate.record record hmetadata)
      have hset : grid.setMetadata id (.loaded (record.amend update)) = grid := by
        refine congrArg (fun entries => { grid with entries := entries })
          (Table.modify_of_same fun other hother => ?_)
        cases hentry.symm.trans hother
        rw [hsame, ← hmetadata]
      rw [hset]
      exact hrest
    · exact hrest

/-- The artifacts of selected entries stand beside their own ids. -/
theorem id_of_mem_selected (h : grid.UpToDate record?) {row : ItemId × Entry}
    (hm : row ∈ grid.selected) : row.2.ref.id = row.1 := by
  obtain ⟨id, -, hrow⟩ := List.mem_filterMap.mp (List.mem_filter.mp hm).1
  obtain ⟨entry, hentry, rfl⟩ := Option.map_eq_some_iff.mp hrow
  exact (h id entry hentry).named

end UpToDate

end Grid

end MediaGrid
