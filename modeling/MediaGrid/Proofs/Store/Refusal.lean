import MediaGrid.Proofs.Grid.Selection
import MediaGrid.Proofs.Store.Ending
import MediaGrid.Proofs.Store.Exclusion
import MediaGrid.Proofs.Store.Listing

/-!
# Calls that the backend refuses

An operation that only asks before its calls are answered leaves nothing behind when they are
refused. What it claimed is given up, so every entry is as before, and so are the order of the
view, the selection, the dialog and the shelf; a load that is repeated makes the same calls again. A
query and an operation on the selection return the failure and leave their request failed with its
text. Archiving is the exception, as it deselects before its call. The operations that drop entries
or contents before they make a call are no part of it, and neither is what happens to the grid
between a call and its refusal.
-/

namespace MediaGrid

namespace Grid

variable {grid : Grid} {ids : List ItemId} {id : ItemId}

/-! ## Metadata that is given up -/

/-- Metadata that is asked for is given up for the ids. -/
theorem metadata?_gaveUpRecords (hm : id ∈ ids) (hasks : grid.asks id) :
    (grid.giveUpRecords ids).metadata? id = some .empty := by
  induction ids generalizing grid with
  | nil => cases hm
  | cons head rest ih =>
    rw [giveUpRecords, List.foldl_cons]
    by_cases hid : id = head
    · subst hid
      have hgiven : (grid.setMetadata id .empty).metadata? id = some .empty := by
        rw [metadata?_setMetadata, if_pos rfl, hasks]
        rfl
      have hnot : ¬(grid.setMetadata id .empty).asks id := by
        rw [asks, hgiven]
        exact fun he => by cases he
      rw [if_pos (show grid.metadata? id = some .pending from hasks)]
      exact (metadata?_giveUpRecords (Or.inr hnot)).trans hgiven
    · refine ih ((List.mem_cons.mp hm).resolve_left hid) ?_
      split
      · rw [asks, metadata?_setMetadata, if_neg hid]
        exact hasks
      · exact hasks

/-- The ids of a claim are those whose entries have no metadata. -/
theorem mem_claimRecords : id ∈ (grid.claimRecords ids).1.map (·.1) ↔
    id ∈ ids ∧ grid.metadata? id = some .empty := by
  constructor
  · intro hm
    induction ids generalizing grid with
    | nil => cases hm
    | cons head rest ih =>
      rw [claimRecords] at hm
      split at hm
      · exact (ih hm).imp_left (List.mem_cons_of_mem head)
      · rename_i entry hentry
        split at hm
        · rename_i hempty
          have hhead : grid.metadata? head = some .empty := by
            rw [metadata?, hentry, Option.map_some, hempty]
          rcases List.mem_cons.mp hm with rfl | hm
          · exact ⟨List.mem_cons_self, hhead⟩
          · obtain ⟨hin, hlater⟩ := ih hm
            refine ⟨List.mem_cons_of_mem head hin, ?_⟩
            rw [metadata?_setMetadata] at hlater
            split at hlater
            · rename_i hid
              rw [hid, hhead]
            · exact hlater
        · exact (ih hm).imp_left (List.mem_cons_of_mem head)
  · rintro ⟨hin, hempty⟩
    -- The claim makes the metadata be asked for, which it was not before.
    have hasks : (grid.claimRecords ids).2.asks id := by
      rw [asks, metadata?_claimRecords, if_pos ⟨hin, hempty⟩]
    refine (asks_claimRecords hasks).resolve_left fun hbefore => ?_
    rw [asks, hempty] at hbefore
    cases hbefore

/-- Metadata that was claimed and is given up is as before. -/
theorem giveUpRecords_claimRecords (grid : Grid) (ids : List ItemId) :
    (grid.claimRecords ids).2.giveUpRecords ((grid.claimRecords ids).1.map (·.1)) = grid := by
  have hsame := (grid.sameUpTo_claimRecords ids).trans
    (sameUpTo_giveUpRecords _ ((grid.claimRecords ids).1.map (·.1)))
  have hmetadata : ∀ id, ((grid.claimRecords ids).2.giveUpRecords
      ((grid.claimRecords ids).1.map (·.1))).metadata? id = grid.metadata? id := by
    intro id
    by_cases hm : id ∈ (grid.claimRecords ids).1.map (·.1)
    · have hclaimed := mem_claimRecords.mp hm
      rw [hclaimed.2]
      refine metadata?_gaveUpRecords hm ?_
      rw [asks, metadata?_claimRecords, if_pos hclaimed]
    · rw [metadata?_giveUpRecords (Or.inl hm), metadata?_claimRecords,
        if_neg (mt mem_claimRecords.mpr hm)]
  refine hsame.eq_of_view (fun _ => rfl) (fun _ _ => Entry.eq_of_withoutMetadata) ?_
  intro id entry other hentry hother
  have hview := hmetadata id
  rw [metadata?, metadata?, hentry, hother] at hview
  exact Option.some.inj hview

end Grid

/-- The reply of a backend that refuses every call. -/
def Pending.refusal (refuse : Call → Failure) : Pending → Reply
  | .page run => .page (.error (refuse (.query run.request)))
  | .pageRecords _ _ claimed => .records (.error (refuse (.readRecords (claimed.map (·.2)))))
  | .records claimed => .records (.error (refuse (.readRecords (claimed.map (·.2)))))
  | .contents load =>
    .fetched (load.chunk.map fun target => .error (refuse (.fetch target.2 load.facet)))
  | .archive items => .settled (.error (refuse (.archive items)))
  | .delete targets => .settled (.error (refuse (.delete (targets.map (·.2)))))
  | .edit targets update =>
    .settled (.error (refuse (.changeRecords update (targets.map (·.2)))))
  | .suggestPage _ request _ => .page (.error (refuse (.query request)))
  | .suggestRecords _ refs _ => .records (.error (refuse (.readRecords refs)))

/-- A refusal is of the kind that an operation waits for. -/
theorem Pending.accepts_refusal (refuse : Call → Failure) (pending : Pending) :
    pending.Accepts (pending.refusal refuse) := by
  cases pending with
  | contents load => exact .contents load _ (List.length_map _)
  | _ => constructor

namespace Store

variable {calls : List (List Call)} {store before after : Store} {result : Except Failure Outcome}
  {refuse : Call → Failure}

/-! ## Loads that are refused -/

/-- Claims that are all refused are given up. -/
theorem settleClaims_refused {facet : ByteFacet} {grid : Grid} {targets : List (Claim × Artifact)}
    {others : List Claim} (fault : Claim × Artifact → Failure) (summary : LoadTally)
    (hlent : grid.Lent facet store.grid (targets.map (·.1) ++ others)) :
    ∃ given tally, settleClaims facet (store, summary)
        (targets.zip (targets.map fun target => .error (fault target))) =
          ({ store with grid := given }, tally) ∧
      grid.Lent facet given others ∧ given.lastTicket = store.grid.lastTicket := by
  induction targets generalizing store summary with
  | nil => exact ⟨store.grid, summary, rfl, hlent, rfl⟩
  | cons target rest ih =>
    obtain ⟨middle, hmiddle, hlater⟩ := hlent.giveUp
    have hone : settleClaim facet (store, summary) target.1 (.error (fault target)) =
        ({ store with grid := middle }, { summary with failed := summary.failed + 1 }) := by
      simp only [settleClaim, hmiddle]
    have hrest : grid.Lent facet ({ store with grid := middle } : Store).grid
        (rest.map (·.1) ++ others) := hlater
    obtain ⟨given, tally, hgiven, hothers, hlast⟩ := ih _ hrest
    refine ⟨given, tally, ?_, hothers, ?_⟩
    · rw [← hgiven, ← hone]
      rfl
    · exact hlast.trans (Grid.sameUpTo_giveUp hmiddle).lastTicket_eq

/-- A load of contents that is refused leaves everything as before, but that tickets were given
out. -/
theorem Completes.of_nextChunk {grid : Grid} {facet : ByteFacet} {size : Nat}
    {chunk targets : List (Claim × Artifact)} {summary : LoadTally}
    (h : Completes (Pending.refusal refuse)
      (store.nextChunk ⟨facet, size, chunk, targets, summary⟩) calls after result)
    (hlent : grid.Lent facet store.grid (targets.map (·.1))) :
    after = { store with grid := { grid with lastTicket := store.grid.lastTicket } } := by
  induction targets using Collection.chunks.induct size generalizing store chunk summary calls with
  | case1 =>
    cases h
    rw [← hlent.restored]
  | case2 target rest ih =>
    rw [nextChunk_cons] at h
    cases h with
    | answered hnext hrest =>
      simp only [resume, Pending.refusal, List.length_map, if_true, Option.some.injEq] at hnext
      rw [← List.take_append_drop (size - 1) rest, ← List.cons_append, List.map_append] at hlent
      obtain ⟨given, tally, hgiven, hothers, hlast⟩ := settleClaims_refused
        (fun target => refuse (.fetch target.2 facet)) summary hlent
      rw [settleChunk, hgiven] at hnext
      rw [← hnext] at hrest
      have hrestored := ih hrest hothers
      rw [hlast] at hrestored
      exact hrestored

/-- A load that is refused leaves everything as before, but that tickets were given out. -/
theorem Completes.of_load {operation : Operation} {state : Store × Progress}
    (hbegins : store.Begins operation state) (hload : operation.isLoad)
    (h : Completes (Pending.refusal refuse) state calls after result) :
    ∃ ticket, after = { store with grid := { store.grid with lastTicket := ticket } } := by
  have hcontents : ∀ {facet ids size},
      Completes (Pending.refusal refuse) (store.load facet ids size) calls after result →
      ∃ ticket, after = { store with grid := { store.grid with lastTicket := ticket } } :=
    fun {facet ids size} h => ⟨_, h.of_nextChunk (store.grid.lent_claimAll facet ids)⟩
  cases hbegins with
  | declined operation outcome hdeclines =>
    cases h
    exact ⟨store.grid.lastTicket, rfl⟩
  | describe ids hsome =>
    obtain ⟨-, rfl, -⟩ := h.of_last rfl
    refine ⟨store.grid.lastTicket, ?_⟩
    rw [giveUpRecords, Grid.giveUpRecords_claimRecords]
  | thumbnails ids chunk => exact hcontents h
  | image id hin => exact hcontents h
  | _ => cases hload

/-! ## Requests that fail -/

/-- The same is shown: the entries with all their contents in their order, the selection, the dialog
and the shelf. -/
structure SameView (before after : Store) : Prop where
  /-- The order of the view is the same. -/
  ids : after.grid.ids = before.grid.ids
  /-- The entries are the same. -/
  entries : after.grid.entries = before.grid.entries
  /-- As many are selected. -/
  count : after.grid.selectionCount = before.grid.selectionCount
  /-- The dialog is the same. -/
  dialog : after.grid.dialogOpen = before.grid.dialogOpen
  /-- The shelf is the same. -/
  shelf : after.shelf = before.shelf

protected theorem SameView.trans {middle : Store} (h : before.SameView middle)
    (h' : middle.SameView after) : before.SameView after :=
  ⟨h'.ids.trans h.ids, h'.entries.trans h.entries, h'.count.trans h.count,
    h'.dialog.trans h.dialog, h'.shelf.trans h.shelf⟩

theorem sameView_moveRequest (store : Store) (kind : Request) (state : RequestStatus) :
    store.SameView (store.moveRequest kind state) := by
  have hgrid := store.grid_moveRequest kind state
  have hshelf := (store.sameStock_moveRequest kind state).shelf
  constructor <;> first | exact hshelf | rw [hgrid]

theorem sameView_requestFailed (store : Store) (kind : Request) (failure : Failure) :
    store.SameView (store.requestFailed kind failure) :=
  store.sameView_moveRequest kind (.failed failure.message)

/-- A page that is refused leaves everything as before, and the query failed. -/
theorem Completes.of_askPage {queries : List Query} {page : Nat}
    (h : Completes (Pending.refusal refuse)
      (store.askPage queries page store.grid.epoch .report) calls after result) :
    ∃ call, calls = [[call]] ∧ result = .error (refuse call) ∧ store.SameView after ∧
      after.grid.requests =
        store.grid.requests.set .query (.failed (refuse call).message) := by
  have hmoved := store.grid_moveRequest .query .loading
  have hview := store.sameView_moveRequest .query .loading
  simp only [askPage] at h
  generalize store.moveRequest .query .loading = moved at h hmoved hview
  -- The page is of the epoch that runs, so its request is taken back.
  obtain ⟨withdrawn, hwithdrawn⟩ :
      ∃ grid, moved.grid.withdrawPage? store.grid.epoch = some grid := by
    rw [hmoved, Grid.withdrawPage?, if_neg (by simp)]
    exact ⟨_, rfl⟩
  obtain ⟨rfl, rfl, rfl⟩ := h.of_last (by
    simp only [resume, Pending.refusal, losePage, hwithdrawn, afterPage]
    rfl)
  obtain ⟨-, hgrid⟩ := Grid.withdrawPage?_eq_some hwithdrawn
  have hback : moved.SameView { moved with grid := withdrawn } := by
    rw [← hgrid]
    constructor <;> rfl
  refine ⟨_, rfl, rfl, (hview.trans hback).trans (sameView_requestFailed _ _ _), ?_⟩
  rw [requestFailed, requests_moveRequest, ← hgrid, hmoved]
  rfl

end Store

/-- The request by which an operation tells how it went. -/
def Operation.reports? : Operation → Option Request
  | .openQuery _ _ => some .query
  | .furtherPage _ => some .query
  | operation => operation.request?

/-- Loads have no request. -/
theorem Operation.reports?_of_isLoad {operation : Operation} (h : operation.isLoad) :
    operation.reports? = none := by
  cases operation <;> first | rfl | cases h

namespace Store

variable {store before after : Store} {calls : List (List Call)}
  {result : Except Failure Outcome} {operation : Operation} {refuse : Call → Failure}

/-- What an operation left behind whose calls were refused. Nothing but archiving deselected
anything. -/
structure Refused (operation : Operation) (refuse : Call → Failure) (before after : Store)
    (calls : List (List Call)) (result : Except Failure Outcome) : Prop where
  /-- The order of the view is as before. -/
  ids : after.grid.ids = before.grid.ids
  /-- The entries are as before, but that archiving deselected them. -/
  entries : ∀ id, after.grid.find? id = (before.grid.find? id).map fun entry =>
    if operation = .archive then { entry with selected := false } else entry
  /-- As many are selected as before, but that none is after archiving. -/
  count : after.grid.selectionCount =
    if operation = .archive then 0 else before.grid.selectionCount
  /-- The dialog is as before. -/
  dialog : after.grid.dialogOpen = before.grid.dialogOpen
  /-- The contents that were fetched are as before. -/
  shelf : after.shelf = before.shelf
  /-- An operation with a request made one call and returns why it was refused. Its request failed
  with the text of that, and the other requests are as before. -/
  failed : ∀ kind, operation.reports? = some kind → ∃ call, calls = [[call]] ∧
    result = .error (refuse call) ∧
    after.grid.requests = before.grid.requests.set kind (.failed (refuse call).message)
  /-- A load moved no request. If it is repeated, it makes the same calls again. -/
  repeats : operation.isLoad → after.grid.requests = before.grid.requests ∧
    ∀ answer, (∀ pending : Pending, pending.Accepts (answer pending)) →
      ∃ later outcome, Completes answer (after.begin operation) calls later outcome

/-- An operation with a request whose only call was refused, where everything is as before. -/
theorem SameView.refused {kind : Request} {call : Call} (h : before.SameView after)
    (hkeeps : operation ≠ .archive) (hreports : operation.reports? = some kind)
    (hrequests : after.grid.requests =
      before.grid.requests.set kind (.failed (refuse call).message)) :
    Refused operation refuse before after [[call]] (.error (refuse call)) where
  ids := h.ids
  entries id := by
    rw [Grid.find?, h.entries, ← Grid.find?]
    simp only [if_neg hkeeps, Option.map_id']
  count := h.count.trans (if_neg hkeeps).symm
  dialog := h.dialog
  shelf := h.shelf
  failed other hother := by
    cases hreports.symm.trans hother
    exact ⟨call, rfl, rfl, hrequests⟩
  repeats hload := by
    rw [Operation.reports?_of_isLoad hload] at hreports
    cases hreports

/-- An operation that starts a request on the selection and whose call is refused. -/
theorem Completes.refused_onSelection {kind : Request} {pending : Pending} {call : Call}
    (hkeeps : operation ≠ .archive) (hreports : operation.reports? = some kind)
    (hcalls : pending.calls = [call])
    (hlast : (before.moveRequest kind .loading).resume pending (pending.refusal refuse) =
      some ((before.moveRequest kind .loading).requestFailed kind (refuse call),
        .done (.error (refuse call))))
    (h : Completes (Pending.refusal refuse) (before.moveRequest kind .loading, .waiting pending)
      calls after result) :
    Refused operation refuse before after calls result := by
  obtain ⟨rfl, rfl, rfl⟩ := h.of_last hlast
  have hview := before.sameView_moveRequest kind .loading
  rw [hcalls]
  refine (hview.trans (sameView_requestFailed _ _ _)).refused hkeeps hreports ?_
  rw [requestFailed, requests_moveRequest, requests_moveRequest]
  cases kind <;> rfl

/-- A load that is refused. -/
theorem Completes.refused_of_load {state : Store × Progress}
    (hbegins : before.Begins operation state) (hload : operation.isLoad)
    (h : Completes (Pending.refusal refuse) state calls after result) :
    Refused operation refuse before after calls result := by
  have hcalls := h.calls_of_load hbegins hload
  obtain ⟨ticket, rfl⟩ := h.of_load hbegins hload
  have hkeeps : operation ≠ .archive := by
    rintro rfl
    cases hload
  refine ⟨rfl, fun id => ?_, (if_neg hkeeps).symm, rfl, rfl, fun kind hkind => ?_, fun _ =>
    ⟨rfl, fun answer hfits => ?_⟩⟩
  · simp only [if_neg hkeeps, Option.map_id']
    rfl
  · rw [Operation.reports?_of_isLoad hload] at hkind
    cases hkind
  · let later : Store := { before with grid := { before.grid with lastTicket := ticket } }
    obtain ⟨again, last, outcome, hagain⟩ := exists_completes hfits (later.begin operation)
    have hsame := hagain.calls_of_load (later.begins operation) hload
    rw [loadCalls_withTicket, ← hcalls] at hsame
    exact ⟨last, outcome, hsame ▸ hagain⟩

/-- Where archiving starts, the selection is deselected and everything else is as before. -/
theorem deselected_by_archive {targets : List (ItemId × Artifact)} {begun : Store}
    (hc : before.grid.Consistent)
    (hbegin : before.beginOnSelection .download = some (targets, begun)) :
    let marked := (begun.mark (some (targets.map (·.1))) false).2
    (∀ id, marked.grid.find? id = (before.grid.find? id).map Entry.withoutMark) ∧
      marked.grid.selectionCount = 0 ∧ marked.shelf = before.shelf ∧
      ∃ entries count, marked.grid = { before.grid with
        entries := entries
        selectionCount := count
        requests := before.grid.requests.set .download .loading } := by
  obtain ⟨-, htaken, -, hmoved⟩ := beginOnSelection_eq_some hbegin
  have hbegun : before.SameView begun := hmoved ▸ before.sameView_moveRequest .download .loading
  have hgrid := before.grid_moveRequest .download .loading
  rw [← hmoved] at hgrid
  intro marked
  have htargets : targets.map (·.1) = before.grid.selected.map (·.1) := by
    rw [htaken, List.map_map]
    rfl
  have hselected : begun.grid.selected = before.grid.selected := by
    rw [hgrid]
    rfl
  have hconsistent : begun.grid.Consistent :=
    hc.congr hbegun.entries hbegun.ids hbegun.count (by rw [hgrid])
  have hmarked : marked.grid =
      (begun.grid.mark (some (begun.grid.selected.map (·.1))) false).2 := by
    rw [hselected, ← htargets]
    exact begun.grid_mark _ false
  obtain ⟨hfind, hcount⟩ := Grid.deselect_selected hconsistent
  obtain ⟨entries, count, hmark⟩ :=
    begun.grid.exists_mark (some (begun.grid.selected.map (·.1))) false
  refine ⟨fun id => ?_, ?_, ?_, entries, count, ?_⟩
  · rw [hmarked, hfind, Grid.find?, hbegun.entries, ← Grid.find?]
  · rw [hmarked, hcount]
  · exact (begun.sameStock_mark _ false).shelf.trans hbegun.shelf
  · rw [hmarked, hmark, hgrid]

/-- An archive that is refused. -/
theorem Completes.refused_of_archive {targets : List (ItemId × Artifact)} {begun : Store}
    {items : List ArchiveEntry} (hc : before.grid.Consistent)
    (hbegin : before.beginOnSelection .download = some (targets, begun))
    (h : Completes (Pending.refusal refuse)
      ((begun.mark (some (targets.map (·.1))) false).2, .waiting (.archive items)) calls after
      result) : Refused .archive refuse before after calls result := by
  obtain ⟨rfl, rfl, rfl⟩ := h.of_last rfl
  obtain ⟨hfind, hcount, hshelf, entries, count, hgrid⟩ := deselected_by_archive hc hbegin
  generalize (begun.mark (some (targets.map (·.1))) false).2 = marked
    at hfind hcount hshelf hgrid ⊢
  have hlost := sameView_requestFailed marked .download
  refine ⟨(hlost _).ids.trans ?_, fun id => ?_, ?_, (hlost _).dialog.trans ?_,
    (hlost _).shelf.trans hshelf, fun kind hkind => ?_, fun hload => by cases hload⟩
  · rw [hgrid]
  · rw [Grid.find?, (hlost _).entries, ← Grid.find?, hfind]
    rfl
  · rw [(hlost _).count, hcount, if_pos rfl]
  · rw [hgrid]
  · cases hkind
    refine ⟨_, rfl, rfl, ?_⟩
    rw [requestFailed, requests_moveRequest, hgrid]
    rfl

/-- An operation that only asks before its calls are answered, and that is refused. -/
theorem Completes.refused {state : Store × Progress} (hbegins : before.Begins operation state)
    (hc : before.grid.Consistent) (hkind : operation.isLoad ∨ operation.reports? ≠ none)
    (h : Completes (Pending.refusal refuse) state calls after result)
    (hcalls : calls ≠ []) : Refused operation refuse before after calls result := by
  cases hbegins with
  | declined operation outcome hdeclines =>
    cases h
    exact absurd rfl hcalls
  | openQuery queries page =>
    obtain ⟨call, rfl, rfl, hview, hrequests⟩ := Completes.of_askPage h
    have hopened : before.SameView { before with grid := (before.grid.openQuery queries page).2 } :=
      ⟨rfl, rfl, rfl, rfl, rfl⟩
    exact (hopened.trans hview).refused (by simp) rfl hrequests
  | furtherPage page queries epoch asked hask =>
    obtain ⟨active, -, -, -, -, hasked, rfl⟩ := Grid.askFurther?_eq_some_iff.mp hask
    cases hasked
    obtain ⟨call, rfl, rfl, hview, hrequests⟩ := Completes.of_askPage h
    have hnoted : before.SameView { before with grid := { before.grid with
        active := some { active with requested := page } } } := ⟨rfl, rfl, rfl, rfl, rfl⟩
    exact (hnoted.trans hview).refused (by simp) rfl hrequests
  | archive targets hbegin => exact h.refused_of_archive hc hbegin
  | delete targets hbegin => exact h.refused_onSelection (by simp) rfl rfl rfl
  | edit update targets hbegin => exact h.refused_onSelection (by simp) rfl rfl rfl
  | describe ids hsome => exact h.refused_of_load (.describe ids hsome) rfl
  | thumbnails ids chunk => exact h.refused_of_load (.thumbnails ids chunk) rfl
  | image id hin => exact h.refused_of_load (.image id hin) rfl
  | _ => exact absurd hkind (by simp [Operation.isLoad, Operation.reports?, Operation.request?])

end Store

namespace Service

/-- Refusals leave nothing behind. Wherever a query begins or goes on, contents or metadata are
loaded, or the selection is archived, deleted or edited, and every call is refused, the operation
ends. If it made a call, the order of the view, every entry with its slots, metadata and video, the
selection, the dialog and the shelf are as before, but that archiving has deselected the selection.
A query and an operation on the selection return the failure and leave their request failed with its
text and the other requests as before, and a load that is repeated makes the same calls again,
whatever it is answered then. -/
theorem refusal_atomic (config : Config) (draw : Nat → Uuid) (turns : List Turn)
    (operation : Operation) (refuse : Call → Failure)
    (hkind : operation.isLoad ∨ operation.reports? ≠ none) :
    let before := ((fresh config draw).run turns).store
    ∃ calls after result,
      Store.Completes (Pending.refusal refuse) (before.begin operation) calls after result ∧
        (calls ≠ [] → Store.Refused operation refuse before after calls result) := by
  intro before
  obtain ⟨calls, after, result, hends⟩ := Store.exists_completes
    (Pending.accepts_refusal refuse) (before.begin operation)
  have hc := consistent_store config draw turns
  exact ⟨calls, after, result, hends, hends.refused (before.begins operation) hc hkind⟩

/-- Two artifacts are shown and selected, and one has its full-sized image. Both small images are
refused, one after the other, and may be asked for again; then archiving is refused. -/
theorem refusal_atomic_down :
    let ref : Artifact := ⟨"b", "a", .image⟩
    let other : Artifact := ⟨"b", "c", .video⟩
    let turns : List Turn := [.command (.add [ref, other]), .command (.mark none true),
      .start (.image ref.id), .answer 0 (.fetched [.ok "x"])]
    let before := ((fresh .standard .supply).run turns).store
    let refuse : Call → Failure := fun _ => .backend "down"
    let load := Operation.thumbnails [ref.id, other.id] 1
    (∃ after result, Store.Completes (Pending.refusal refuse) (before.begin load)
      [[.fetch ref .thumbnail], [.fetch other .thumbnail]] after result ∧
      Store.Refused load refuse before after
        [[.fetch ref .thumbnail], [.fetch other .thumbnail]] result) ∧
    ∃ calls after result,
      Store.Completes (Pending.refusal refuse) (before.begin .archive) calls after result ∧
      Store.Refused .archive refuse before after calls result ∧
      after.grid.selectionCount = 0 ∧
      after.grid.requests.download = .failed "Backend error: down" := by
  intro ref other turns before refuse load
  have hbefore : ((fresh .standard .supply).run turns).store = before := rfl
  have harchive : (before.begin .archive).2.pendings ≠ [] := by decide +kernel
  have hclaims : (before.grid.claimAll .thumbnail [ref.id, other.id]).1 =
      [(⟨ref.id, 2⟩, ref), (⟨other.id, 3⟩, other)] := by decide +kernel
  have hloads := refusal_atomic .standard .supply turns load refuse (Or.inl rfl)
  have hselection := refusal_atomic .standard .supply turns .archive refuse
    (Or.inr (Option.some_ne_none _))
  rw [hbefore] at hloads hselection
  clear_value before
  obtain ⟨calls, after, result, hends, hrefused⟩ := hloads
  have hcalls : calls = [[.fetch ref .thumbnail], [.fetch other .thumbnail]] := by
    rw [hends.calls_of_load (before.begins load) rfl, Store.loadCalls, hclaims]
    simp [Store.fetchesOf, Collection.chunks]
  subst hcalls
  refine ⟨⟨after, result, hends, hrefused (List.cons_ne_nil _ _)⟩, ?_⟩
  obtain ⟨calls, after, result, hends, hrefused⟩ := hselection
  have hleft := hrefused (hends.calls_ne_nil harchive)
  obtain ⟨call, -, -, hrequests⟩ := hleft.failed .download rfl
  refine ⟨calls, after, result, hends, hleft, hleft.count, ?_⟩
  rw [hrequests]
  rfl

end Service

end MediaGrid
