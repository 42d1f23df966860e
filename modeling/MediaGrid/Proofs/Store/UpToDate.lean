import MediaGrid.Proofs.Artifact.Amend
import MediaGrid.Proofs.Grid.UpToDate
import MediaGrid.Proofs.Store.Debts

/-!
# Operations that keep metadata up to date

The entries of a store are up to date with the records of a backend as long as the backend answers
with its own records and is changed by no one else. A deletion takes away records, and the entries
of the same artifacts go. A change of records drops the view before anything is loaded again, and
the update that is applied in the end finds records that have it. Everything else loads records as
they are or loads none. One answer is looked at here; who waits beside the operation is not.
-/

namespace MediaGrid

/-- What follows upon a page: an update is one that the records of its ids have already. -/
def Purpose.Sound (record? : Artifact → Option Metadata) : Purpose → Prop
  | .report => True
  | .edit ids update => ∀ ref record, ref.id ∈ ids → record? ref = some record →
    record.amend update = record

/-- What follows upon a page, with another update in place of that of an edit. -/
def Purpose.patching (other : Metadata) : Purpose → Purpose
  | .report => .report
  | .edit ids _ => .edit ids other

/-- The ids of an edit that goes on after a page, and its update. -/
def Purpose.edit? : Purpose → Option (List ItemId × Metadata)
  | .report => none
  | .edit ids update => some (ids, update)

namespace Pending

/-- An operation with another update in place of the one that an edit applies in the end. -/
def patching (other : Metadata) : Pending → Pending
  | .page run => .page { run with purpose := run.purpose.patching other }
  | .pageRecords run added claimed =>
    .pageRecords { run with purpose := run.purpose.patching other } added claimed
  | .edit targets _ => .edit targets other
  | pending => pending

/-- The ids of an edit, and its update. -/
def edit? : Pending → Option (List ItemId × Metadata)
  | .page run => run.purpose.edit?
  | .pageRecords run _ _ => run.purpose.edit?
  | .edit targets update => some (targets.map (·.1), update)
  | _ => none

/-- An edit that applies its own update is the edit itself. -/
theorem patching_self {pending : Pending} {ids : List ItemId} {update : Metadata}
    (h : pending.edit? = some (ids, update)) : pending.patching update = pending := by
  cases pending with
  | page run => obtain ⟨request, epoch, _ | _⟩ := run <;> cases h; rfl
  | pageRecords run added claimed => obtain ⟨request, epoch, _ | _⟩ := run <;> cases h; rfl
  | edit targets own => cases h; rfl
  | _ => cases h

/-- What an operation waits with: artifacts stand beside their own ids, and what follows upon a
page is sound. -/
def Sound (record? : Artifact → Option Metadata) : Pending → Prop
  | .page run => run.purpose.Sound record?
  | .pageRecords run _ _ => run.purpose.Sound record?
  | .delete targets => ∀ target ∈ targets, target.2.id = target.1
  | .edit targets _ => ∀ target ∈ targets, target.2.id = target.1
  | _ => True

/-- The records of a backend after it gave a reply to an operation. -/
def written (record? : Artifact → Option Metadata) (pending : Pending) (reply : Reply)
    (ref : Artifact) : Option Metadata :=
  match pending, reply with
  | .delete targets, .settled (.ok ()) => if ref ∈ targets.map (·.2) then none else record? ref
  | .edit targets update, .settled (.ok ()) =>
    if ref ∈ targets.map (·.2) then (record? ref).map (·.amend update) else record? ref
  | _, _ => record? ref

/-- An artifact is among the targets if its id is. -/
theorem ref_of_mem_targets {targets : List (ItemId × Artifact)}
    (hsound : ∀ target ∈ targets, target.2.id = target.1) {ref : Artifact}
    (h : ref.id ∈ targets.map (·.1)) : ref ∈ targets.map (·.2) := by
  obtain ⟨target, htarget, hid⟩ := List.mem_map.mp h
  refine List.mem_map.mpr ⟨target, htarget, Artifact.eq_of_id_eq ?_⟩
  rw [hsound target htarget, hid]

end Pending

/-- The records that a reply brings are the right ones. -/
def Reply.Right (record? : Artifact → Option Metadata) : Reply → Prop
  | .records (.ok rows) => ∀ row ∈ rows, record? row.1 = some row.2
  | _ => True

namespace Store

/-- An operation that ran as far as it gets left all entries up to date, and waits with what is
sound. -/
structure Informed (record? : Artifact → Option Metadata) (result : Store × Progress) : Prop where
  /-- The entries are up to date. -/
  grid : result.1.grid.UpToDate record?
  /-- What is waited with is sound. -/
  waits : ∀ pending ∈ result.2.pendings, pending.Sound record?

variable {record? : Artifact → Option Metadata} {store : Store}

theorem sound_report : Purpose.report.Sound record? := trivial

/-- A byte facet is no part of what an entry says of its artifact. -/
theorem view_withoutSlot (facet : ByteFacet) (entry : Entry) :
    ((entry.withoutSlot facet).ref, (entry.withoutSlot facet).metadata) =
      (entry.ref, entry.metadata) := by
  rw [Entry.withoutSlot, Entry.ref_setSlot, Entry.metadata_setSlot]

theorem entries_clear (store : Store) (keepQuery : Bool) :
    (store.clear keepQuery).grid.entries = .empty := by
  unfold clear
  dsimp only
  split <;> rfl

/-- Clearing the view leaves nothing that could be out of date. -/
theorem upToDate_clear (store : Store) (keepQuery : Bool) :
    (store.clear keepQuery).grid.UpToDate record? :=
  Grid.upToDate_of_empty (store.entries_clear keepQuery)

section

variable (h : store.grid.UpToDate record?)
include h

/-! ## Without an answer -/

theorem upToDate_moveRequest (kind : Request) (state : RequestStatus) :
    (store.moveRequest kind state).grid.UpToDate record? := by
  rw [grid_moveRequest]
  exact h.of_entries rfl

theorem upToDate_addAll (refs : List Artifact) :
    (store.addAll refs).2.grid.UpToDate record? := by
  simp only [addAll, grid_publishFor]
  exact h.addAll refs

theorem upToDate_unload (facet : ByteFacet) (ids : List ItemId) :
    (store.unload facet ids).2.grid.UpToDate record? := by
  simp only [unload, grid_publishFor]
  exact h.of_sameUpTo (store.grid.sameUpTo_unload facet ids) (view_withoutSlot facet)

theorem upToDate_mark (ids : Option (List ItemId)) (value : Bool) :
    (store.mark ids value).2.grid.UpToDate record? := by
  rw [grid_mark]
  exact h.mark ids value

theorem upToDate_setDialog (isOpen : Bool) :
    (store.setDialog isOpen).2.grid.UpToDate record? := by
  rw [setDialog, grid_commit, Grid.setDialog?]
  split <;> exact h.of_entries rfl

theorem upToDate_setVideo (id : ItemId) (urls : Option VideoLinks) :
    (store.setVideo id urls).2.grid.UpToDate record? := by
  rw [setVideo, grid_commit]
  cases hset : store.grid.setVideo? id urls with
  | none => exact h
  | some grid => exact h.of_sameUpTo (Grid.sameUpTo_setVideo hset) fun _ => rfl

theorem upToDate_showVideo (urlsOf : Artifact → Option VideoLinks) (id : ItemId) :
    (store.showVideo urlsOf id).2.grid.UpToDate record? := by
  rcases store.showVideo_cases urlsOf id with ⟨hkept, -⟩ | ⟨-, urls, -, -, hset⟩
  · rw [hkept]
    exact h
  · rw [hset]
    exact upToDate_setVideo h id _

theorem upToDate_typeSearch (search : String) :
    (store.typeSearch search).2.grid.UpToDate record? := by
  rw [typeSearch, grid_commit, Grid.setSearch?]
  split <;> exact h.of_entries rfl

theorem upToDate_offerCompletions (search : String) (completions : List String) :
    (store.offerCompletions search completions).grid.UpToDate record? := by
  unfold offerCompletions
  split
  · rw [grid_commit, Grid.setCompletions?]
    split <;> exact h.of_entries rfl
  · exact h

theorem upToDate_giveUpRecords (claimed : List (ItemId × Artifact)) :
    (store.giveUpRecords claimed).grid.UpToDate record? :=
  h.giveUpRecords _

theorem upToDate_storeRecords (claimed : List (ItemId × Artifact))
    {records : List (Artifact × Metadata)}
    (hrecords : ∀ row ∈ records, record? row.1 = some row.2) :
    (store.storeRecords claimed records).2.grid.UpToDate record? := by
  simp only [storeRecords, grid_publishFor]
  exact h.settleRecords _ hrecords

/-- A command leaves entries up to date. -/
theorem upToDate_obey (command : Command) : (store.obey command).grid.UpToDate record? := by
  cases command with
  | add refs => exact upToDate_addAll h refs
  | clear keepQuery => exact upToDate_clear store keepQuery
  | unload facet ids => exact upToDate_unload h facet ids
  | mark ids value => exact upToDate_mark h ids value
  | dialog isOpen => exact upToDate_setDialog h isOpen
  | showVideo urlsOf id => exact upToDate_showVideo h urlsOf id
  | hideVideo id => exact upToDate_setVideo h id none
  | typeSearch search => exact upToDate_typeSearch h search
  | pick completion => exact upToDate_typeSearch h _

/-! ## Between two calls -/

theorem informed_done (outcome : Except Failure Outcome) :
    Informed record? (store, .done outcome) :=
  ⟨h, fun _ hm => by cases hm⟩

theorem informed_waiting {pending : Pending} (hsound : pending.Sound record?) :
    Informed record? (store, .waiting pending) :=
  ⟨h, fun other hm => by rwa [List.mem_singleton.mp hm]⟩

theorem informed_finishEdit {ids : List ItemId} {update : Metadata}
    (hpurpose : (Purpose.edit ids update).Sound record?) :
    Informed record? (store.finishEdit ids update) := by
  refine informed_done (upToDate_moveRequest ?_ _ _) _
  simp only [grid_publishFor, h.amendRecords_eq hpurpose]
  exact h

theorem informed_afterPage {run : PageRun} (hpurpose : run.purpose.Sound record?)
    (result : Except Failure (List ItemId)) : Informed record? (store.afterPage run result) := by
  unfold afterPage
  cases hrun : run.purpose with
  | report => exact informed_done h _
  | edit ids update => exact informed_finishEdit h (hrun ▸ hpurpose)

theorem informed_askPage (queries : List Query) (page epoch : Nat) {purpose : Purpose}
    (hpurpose : purpose.Sound record?) :
    Informed record? (store.askPage queries page epoch purpose) :=
  informed_waiting (upToDate_moveRequest h _ _) hpurpose

theorem informed_openQuery (queries : List Query) (page : Nat) {purpose : Purpose}
    (hpurpose : purpose.Sound record?) :
    Informed record? (store.openQuery queries page purpose) := by
  refine informed_askPage ?_ queries page _ hpurpose
  exact h.of_entries rfl

theorem informed_settlePage {run : PageRun} (hpurpose : run.purpose.Sound record?)
    (added : List ItemId) : Informed record? (store.settlePage run added) :=
  informed_afterPage (upToDate_moveRequest h _ _) hpurpose _

theorem informed_mergePage {run : PageRun} (hpurpose : run.purpose.Sound record?) (page : Page) :
    Informed record? (store.mergePage run page) := by
  have hmerged : (store.grid.mergePage run.epoch page).2.UpToDate record? := by
    unfold Grid.mergePage
    split
    · exact h
    · dsimp only
      split
      · exact h.addAll page.refs
      · exact (h.addAll page.refs).of_entries rfl
  unfold mergePage
  split
  · rename_i grid hnone
    rw [hnone] at hmerged
    refine informed_afterPage ?_ hpurpose _
    exact hmerged
  · rename_i merged grid hsome
    rw [hsome] at hmerged
    have hclaimed := hmerged.claimRecords merged.added
    dsimp only
    rw [publish, grid_publishFor]
    split
    · exact informed_settlePage hclaimed hpurpose _
    · exact informed_waiting hclaimed hpurpose

theorem informed_losePage {run : PageRun} (hpurpose : run.purpose.Sound record?)
    (failure : Failure) : Informed record? (store.losePage run failure) := by
  unfold losePage
  cases hlost : store.grid.withdrawPage? run.epoch with
  | none => exact informed_afterPage h hpurpose _
  | some grid =>
    obtain ⟨-, rfl⟩ := Grid.withdrawPage?_eq_some hlost
    refine informed_afterPage (upToDate_moveRequest ?_ _ _) hpurpose _
    exact h.of_entries rfl

theorem informed_nextChunk (load : ByteLoad) : Informed record? (store.nextChunk load) := by
  unfold nextChunk
  split
  · exact informed_done h _
  · exact informed_waiting h trivial

theorem informed_load (facet : ByteFacet) (ids : List ItemId) (size : Nat) :
    Informed record? (store.load facet ids size) := by
  -- Claims give out tickets, which are no part of the entries.
  have hclaimed := h.of_sameUpTo (store.grid.sameUpTo_claimAll facet ids) (view_withoutSlot facet)
  refine informed_nextChunk ?_ _
  exact hclaimed.of_entries rfl

omit h in
theorem upToDate_settleClaims (facet : ByteFacet) (state : Store × LoadTally)
    (h : state.1.grid.UpToDate record?)
    (settled : List ((Claim × Artifact) × Except Failure String)) :
    (settleClaims facet state settled).1.grid.UpToDate record? := by
  induction settled generalizing state with
  | nil => exact h
  | cons head rest ih =>
    refine ih _ ?_
    rcases grid_settleClaim facet state head.1.1 head.2 with ⟨-, slot, -, hgrid⟩ | ⟨-, hgrid⟩
    · rw [hgrid]
      have hset : Grid.SameUpTo (Entry.withoutSlot facet) state.1.grid
          (state.1.grid.modify head.1.1.id (·.setSlot facet slot)) :=
        .modify state.1.grid head.1.1.id fun entry => entry.withoutSlot_setSlot facet slot
      exact h.of_sameUpTo hset (view_withoutSlot facet)
    · rw [hgrid]
      exact h

theorem informed_rememberSuggestions (search : String) (completions : List String) :
    Informed record? (store.rememberSuggestions search completions) := by
  refine informed_done (upToDate_offerCompletions ?_ _ _) _
  exact h

/-- An operation on the selection takes the artifacts of the selected entries. -/
theorem id_of_mem_targets {kind : Request} {targets : List (ItemId × Artifact)} {begun : Store}
    (hbegin : store.beginOnSelection kind = some (targets, begun)) :
    ∀ target ∈ targets, target.2.id = target.1 := by
  obtain ⟨-, rfl, -, -⟩ := beginOnSelection_eq_some hbegin
  intro target htarget
  obtain ⟨row, hrow, rfl⟩ := List.mem_map.mp htarget
  exact h.id_of_mem_selected hrow

/-! ## Starting and going on -/

/-- An operation that starts leaves entries up to date. -/
theorem informed_begin {operation : Operation} {result : Store × Progress}
    (hbegins : store.Begins operation result) : Informed record? result := by
  cases hbegins with
  | declined operation outcome hdeclines => exact informed_done h outcome
  | openQuery queries page => exact informed_openQuery h queries page sound_report
  | furtherPage page queries epoch asked hask =>
    obtain ⟨active, -, -, -, -, -, rfl⟩ := Grid.askFurther?_eq_some_iff.mp hask
    refine informed_askPage ?_ queries page epoch sound_report
    exact h.of_entries rfl
  | refill active hactive => exact informed_openQuery (store.upToDate_clear true) _ 0 sound_report
  | submit => exact informed_openQuery (store.upToDate_clear false) _ 0 sound_report
  | describe ids hsome =>
    refine informed_waiting ?_ trivial
    exact h.claimRecords ids
  | thumbnails ids chunk => exact informed_load h .thumbnail ids chunk
  | image id hin => exact informed_load h .full [id] 1
  | followScroll entered exited =>
    exact informed_load (upToDate_unload h .thumbnail exited) .thumbnail entered _
  | archive targets hbegin =>
    exact informed_waiting (upToDate_mark (upToDate_moveRequest h _ _) _ _) trivial
  | delete targets hbegin =>
    exact informed_waiting (upToDate_moveRequest h _ _) (id_of_mem_targets h hbegin)
  | edit update targets hbegin =>
    exact informed_waiting (upToDate_moveRequest h _ _) (id_of_mem_targets h hbegin)
  | suggestCached texts hcached => exact informed_done (upToDate_offerCompletions h _ texts) _
  | suggestNone hcached hnone => exact informed_done (upToDate_offerCompletions h _ []) _
  | suggestPage hcached hwords hlimit => exact informed_waiting h trivial

end

/-- An edit whose view is dropped starts again from nothing, so it matters only that the records
have the update. -/
theorem informed_rebuild (store : Store) {ids : List ItemId} {update : Metadata}
    (hpurpose : (Purpose.edit ids update).Sound record?) :
    Informed record? (store.rebuild ids update) := by
  unfold rebuild
  dsimp only
  split
  · exact informed_finishEdit (upToDate_clear _ true) hpurpose
  · exact informed_openQuery (upToDate_clear _ true) _ 0 hpurpose

/-- An operation that goes on leaves entries up to date with the records that the backend has after
its reply. -/
theorem informed_resume {pending : Pending} {reply : Reply} {result : Store × Progress}
    (h : store.grid.UpToDate record?) (hsound : pending.Sound record?)
    (hright : reply.Right record?) (hresume : store.resume pending reply = some result) :
    Informed (pending.written record? reply) result := by
  cases resumes_of_eq_some hresume with
  | page run page => exact informed_mergePage h hsound page
  | pageLost run failure => exact informed_losePage h hsound failure
  | pageRecords run added claimed records =>
    exact informed_settlePage (upToDate_storeRecords h claimed hright) hsound added
  | pageRecordsLost run added claimed failure =>
    exact informed_afterPage (upToDate_moveRequest (upToDate_giveUpRecords h claimed) _ _)
      hsound _
  | records claimed records => exact informed_done (upToDate_storeRecords h claimed hright) _
  | recordsLost claimed failure => exact informed_done (upToDate_giveUpRecords h claimed) _
  | contents load outcomes hlength =>
    exact informed_nextChunk (upToDate_settleClaims load.facet (store, load.summary) h _) _
  | archive items => exact informed_done (upToDate_moveRequest h _ _) _
  | archiveLost items failure => exact informed_done (upToDate_moveRequest h _ _) _
  | delete targets =>
    refine informed_done (upToDate_moveRequest ?_ _ _) _
    simp only [discard, grid_publishFor]
    refine h.discard fun ref href => if_neg fun hm => href ?_
    obtain ⟨target, htarget, rfl⟩ := List.mem_map.mp hm
    exact List.mem_map.mpr ⟨target, htarget, (hsound target htarget).symm⟩
  | deleteLost targets failure => exact informed_done (upToDate_moveRequest h _ _) _
  | edit targets update =>
    refine store.informed_rebuild fun ref record href hrecord => ?_
    have hwritten : (record? ref).map (·.amend update) = some record :=
      (if_pos (Pending.ref_of_mem_targets hsound href)).symm.trans hrecord
    obtain ⟨old, -, rfl⟩ := Option.map_eq_some_iff.mp hwritten
    exact old.amend_amend update
  | editLost targets update failure => exact informed_done (upToDate_moveRequest h _ _) _
  | suggestNone search request fragments page hempty =>
    exact informed_rememberSuggestions h search []
  | suggestPage search request fragments page hsome => exact informed_waiting h trivial
  | suggestPageLost search request fragments failure => exact informed_done h _
  | suggestRecords search refs fragments records => exact informed_rememberSuggestions h search _
  | suggestRecordsLost search refs fragments failure => exact informed_done h _

/-! ## The end of an edit -/

/-- Merging a page waits for its metadata or ends the page, and does not look at what follows upon
it. -/
theorem mergePage_purpose (store : Store) (request : PageRequest) (epoch : Nat) (page : Page) :
    (∀ purpose, ∃ next, (store.mergePage ⟨request, epoch, purpose⟩ page).2 = .waiting next) ∨
    ∃ added, ∀ purpose, store.mergePage ⟨request, epoch, purpose⟩ page =
      (store.mergePage ⟨request, epoch, .report⟩ page).1.afterPage ⟨request, epoch, purpose⟩
        (.ok added) := by
  rcases hmerge : store.grid.mergePage epoch page with ⟨_ | merged, grid⟩
  · refine Or.inr ⟨[], fun purpose => ?_⟩
    simp only [mergePage, hmerge]
    rfl
  · simp only [mergePage, hmerge, publish, grid_publishFor]
    split
    · exact Or.inr ⟨merged.added, fun purpose => rfl⟩
    · exact Or.inl fun purpose => ⟨_, rfl⟩

/-- Where there is a query the view is filled again, and an edit that has none ends with an empty
view. -/
theorem rebuild_update (store : Store) (ids : List ItemId) :
    (∀ update, ∃ next, (store.rebuild ids update).2 = .waiting next) ∨
    ∃ cleared : Store, cleared.grid.entries = .empty ∧
      ∀ update, store.rebuild ids update = cleared.finishEdit ids update := by
  unfold rebuild
  dsimp only
  generalize (((store.setDialog false).2.forget.unload .thumbnail _).2.unload .full _).2 = middle
  cases hactive : (middle.clear true).grid.active with
  | none => exact Or.inr ⟨middle.clear true, middle.entries_clear true, fun update => rfl⟩
  | some active => exact Or.inl fun update => ⟨_, rfl⟩

/-- Where an edit ends well, its update is applied to a store that is up to date, and changes no
record there. What store that is does not depend on the update that is applied. -/
theorem ends_edit {pending : Pending} {reply : Reply} {result : Store × Progress}
    (h : store.grid.UpToDate record?) (hsound : pending.Sound record?)
    (hright : reply.Right record?) (hresume : store.resume pending reply = some result)
    {outcome : Outcome} (hdone : result.2 = .done (.ok outcome)) {ids : List ItemId}
    {update : Metadata} (hedit : pending.edit? = some (ids, update)) :
    ∃ fetched : Store, (fetched.grid.amendRecords update ids).2 = fetched.grid ∧
      ∀ other, store.resume (pending.patching other) reply =
        some (fetched.finishEdit ids other) := by
  -- For a page, the store is the one that would be left if nothing followed upon it.
  cases resumes_of_eq_some hresume with
  | page run page =>
    obtain ⟨request, epoch, _ | _⟩ := run <;> cases hedit
    rcases store.mergePage_purpose request epoch page with hwaits | ⟨added, hends⟩
    · obtain ⟨next, hnext⟩ := hwaits (.edit ids update)
      cases hnext.symm.trans hdone
    · have hreported : Informed record? (store.mergePage ⟨request, epoch, .report⟩ page) :=
        informed_mergePage h sound_report page
      exact ⟨_, hreported.grid.amendRecords_eq hsound,
        fun other => congrArg some (hends (.edit ids other))⟩
  | pageLost run failure =>
    obtain ⟨request, epoch, _ | _⟩ := run <;> cases hedit
    have hreported : Informed record? (store.losePage ⟨request, epoch, .report⟩ failure) :=
      informed_losePage h sound_report failure
    exact ⟨_, hreported.grid.amendRecords_eq hsound, fun other => rfl⟩
  | pageRecords run added claimed records =>
    obtain ⟨request, epoch, _ | _⟩ := run <;> cases hedit
    have hstored := upToDate_moveRequest (upToDate_storeRecords h claimed hright) .query .succeeded
    exact ⟨_, hstored.amendRecords_eq hsound, fun other => rfl⟩
  | pageRecordsLost run added claimed failure =>
    obtain ⟨request, epoch, _ | _⟩ := run <;> cases hedit
    have hgiven := upToDate_moveRequest (upToDate_giveUpRecords h claimed) .query
      (.failed failure.message)
    exact ⟨_, hgiven.amendRecords_eq hsound, fun other => rfl⟩
  | edit targets update =>
    cases hedit
    rcases store.rebuild_update (targets.map (·.1)) with hwaits | ⟨cleared, hempty, hends⟩
    · obtain ⟨next, hnext⟩ := hwaits update
      cases hnext.symm.trans hdone
    · have hcleared : cleared.grid.UpToDate fun _ => none := Grid.upToDate_of_empty hempty
      have hnothing : (cleared.grid.amendRecords update (targets.map (·.1))).2 = cleared.grid :=
        hcleared.amendRecords_eq fun _ _ _ hrecord => by cases hrecord
      exact ⟨cleared, hnothing, fun other => congrArg some (hends other)⟩
  | editLost targets update failure => cases hdone
  | _ => cases hedit

end Store

end MediaGrid
