import MediaGrid.Proofs.Grid.Removal
import MediaGrid.Proofs.Store.Conservation
import MediaGrid.Proofs.Store.Refusal

/-!
# Acting on the selection

An operation on the selection takes its targets where it starts: the selected entries in view order,
each once and never none. Its one call on them names these targets, and whatever happens while that
call is waited for, the operation acts on them alone. A deletion that succeeded removes those of
them that are present by then, also where they were added again, with their contents; archiving has
deselected them at the start. What an edit does to the view after its call is no part of it.
-/

namespace MediaGrid

/-- The artifacts that a call names. -/
def Call.refs : Call → List Artifact
  | .query _ => []
  | .fetch ref _ => [ref]
  | .readRecords refs => refs
  | .changeRecords _ refs => refs
  | .delete refs => refs
  | .archive items => items.map (·.artifact)

/-- A call names the selection of a grid. -/
structure Call.NamesSelection (call : Call) (grid : Grid) : Prop where
  /-- It names the selected ids in view order. -/
  ids : call.refs.map (·.id) = grid.ids.filter grid.isSelected
  /-- It names the artifacts of their entries. -/
  entries : ∀ ref ∈ call.refs, (grid.find? ref.id).map (·.ref) = some ref
  /-- It names none twice. -/
  nodup : call.refs.Nodup
  /-- It names one at least. -/
  nonempty : call.refs ≠ []

/-- An operation on the selection waits for its call on these targets. -/
inductive Operation.Takes (targets : List (ItemId × Artifact)) : Operation → Pending → Prop where
  /-- It archives them. -/
  | archive (items : List ArchiveEntry) (hitems : items.map (·.artifact) = targets.map (·.2)) :
    Takes targets .archive (.archive items)
  /-- It deletes them. -/
  | delete : Takes targets .delete (.delete targets)
  /-- It edits their metadata. -/
  | edit (update : Metadata) : Takes targets (.edit update) (.edit targets update)

/-- An operation that took its targets waits for one call, which names them. -/
theorem Operation.Takes.calls {targets : List (ItemId × Artifact)} {operation : Operation}
    {pending : Pending} (h : operation.Takes targets pending) :
    ∃ call, pending.calls = [call] ∧ call.request? = operation.request? ∧
      call.refs = targets.map (·.2) := by
  cases h with
  | archive items hitems => exact ⟨.archive items, rfl, rfl, hitems⟩
  | delete => exact ⟨_, rfl, rfl, rfl⟩
  | edit update => exact ⟨_, rfl, rfl, rfl⟩

namespace Store

variable {store before after : Store} {operation : Operation} {kind : Request}
  {targets : List (ItemId × Artifact)} {ids removed : List ItemId}

/-! ## Taking the targets -/

/-- Where an operation on the selection started, archiving has deselected its targets, and
everything else that is shown is as before. -/
structure Started (operation : Operation) (targets : List ItemId) (before after : Store) :
    Prop where
  /-- The order of the view is as before. -/
  ids : after.grid.ids = before.grid.ids
  /-- The entries are as before, but that archiving deselected the targets. -/
  entries : ∀ id, after.grid.find? id = (before.grid.find? id).map fun entry =>
    if operation = .archive ∧ id ∈ targets then { entry with selected := false } else entry
  /-- The contents that were fetched are as before. -/
  shelf : after.shelf = before.shelf

/-- Where nothing that is shown changed, an operation that does not archive has started. -/
theorem SameView.started (h : before.SameView after) (hkeeps : operation ≠ .archive)
    (targets : List ItemId) : before.Started operation targets after where
  ids := h.ids
  entries id := by
    rw [Grid.find?, h.entries, ← Grid.find?]
    simp only [hkeeps, false_and, if_false, Option.map_id']
  shelf := h.shelf

/-- An operation on the selection that is let through takes its targets and waits for its call. -/
theorem begin_takes (hkind : operation.request? = some kind)
    (hbegin : before.beginOnSelection kind = some (targets, after)) :
    ∃ pending, (before.begin operation).2 = .waiting pending ∧ operation.Takes targets pending ∧
      before.Started operation (targets.map (·.1)) (before.begin operation).1 := by
  obtain ⟨-, -, -, hmoved⟩ := beginOnSelection_eq_some hbegin
  have hview : before.SameView after := hmoved ▸ before.sameView_moveRequest kind .loading
  have hgrid := before.grid_moveRequest kind .loading
  rw [← hmoved] at hgrid
  cases operation with
  | archive =>
    cases hkind
    simp only [begin, archive, hbegin]
    refine ⟨_, rfl, .archive _ ?_, ?_⟩
    · rw [List.map_map]
      rfl
    · obtain ⟨entries, count, hmark⟩ :=
        after.grid.exists_mark (some (targets.map (·.1))) false
      refine ⟨?_, fun id => ?_, (after.sameStock_mark _ false).shelf.trans hview.shelf⟩
      · rw [grid_mark, hmark, hgrid]
      · rw [grid_mark, Grid.find?_mark, Grid.find?, hview.entries, ← Grid.find?]
        simp only [Option.getD_some, true_and]
  | delete =>
    cases hkind
    simp only [begin, delete, hbegin]
    exact ⟨_, rfl, .delete, hview.started (by simp) _⟩
  | edit update =>
    cases hkind
    simp only [begin, edit, hbegin]
    exact ⟨_, rfl, .edit update, hview.started (by simp) _⟩
  | _ => cases hkind

/-- The targets that were taken stand under the ids of their artifacts. -/
theorem ids_targets (hc : before.grid.Consistent)
    (hbegin : before.beginOnSelection kind = some (targets, after)) :
    (targets.map (·.2)).map (·.id) = targets.map (·.1) := by
  obtain ⟨-, rfl, -, -⟩ := beginOnSelection_eq_some hbegin
  rw [List.map_map, List.map_map, List.map_map]
  exact List.map_congr_left fun row hrow =>
    hc.id_ref row.1 row.2 (Grid.find?_of_mem_selected hrow)

/-- A call that names the targets that were taken names the selection. -/
theorem namesSelection_targets (hc : before.grid.Consistent)
    (hbegin : before.beginOnSelection kind = some (targets, after)) {call : Call}
    (hcall : call.refs = targets.map (·.2)) : call.NamesSelection before.grid := by
  have htargets := ids_targets hc hbegin
  obtain ⟨-, rfl, hsome, -⟩ := beginOnSelection_eq_some hbegin
  have hids : call.refs.map (·.id) = before.grid.ids.filter before.grid.isSelected := by
    rw [hcall, htargets, List.map_map, ← Grid.ids_selected]
    rfl
  refine ⟨hids, fun ref hm => ?_, ?_, ?_⟩
  · rw [hcall, List.map_map] at hm
    obtain ⟨row, hrow, rfl⟩ := List.mem_map.mp hm
    have hfound := Grid.find?_of_mem_selected hrow
    dsimp only [Function.comp_apply]
    rw [hc.id_ref row.1 row.2 hfound, hfound]
    rfl
  · have hnodup := hc.nodup_ids.filter before.grid.isSelected
    rw [← hids] at hnodup
    exact hnodup.of_map _
  · rw [hcall]
    exact fun hnone => hsome (List.map_eq_nil_iff.mp hnone)

/-- What goes on with an answer makes no call on the selection. -/
theorem request?_of_resumed {pending next : Pending} {reply : Reply}
    {result : Store × Progress} (h : store.resume pending reply = some result)
    (hm : next ∈ result.2.pendings) {call : Call} (hcall : call ∈ next.calls) :
    call.request? = none := by
  rcases waits_resume h hm with ⟨run, rfl⟩ | ⟨run, page, added, -, rfl⟩ | ⟨-, -, hnone⟩
  · rw [List.mem_singleton.mp hcall]
    rfl
  · rw [List.mem_singleton.mp hcall]
    rfl
  · have hfor := next.calls_for
    rw [hnone, Option.toList_none, or_self] at hfor
    exact List.filterMap_eq_nil_iff.mp hfor call hcall

/-! ## Deleting the targets -/

/-- What a deletion that succeeded removed of its targets. -/
structure Deleted (targets removed : List ItemId) (before after : Store) : Prop where
  /-- It removed the targets that are present, in their order. -/
  removed_eq : removed = targets.filter before.grid.contains
  /-- They have no entry any more, and every other entry is as before. -/
  entries : ∀ id, after.grid.find? id = if id ∈ removed then none else before.grid.find? id
  /-- The others keep their order. -/
  ids : after.grid.ids = before.grid.ids.filter (· ∉ removed)
  /-- As many are counted as are still selected. -/
  count : after.grid.selectionCount = (after.grid.ids.filter after.grid.isSelected).length
  /-- The contents of what was removed are dropped, and every other one is as before. -/
  contents : ∀ key, after.shelf.find? key =
    if ⟨key⟩ ∈ before.grid.handlesOf removed then none else before.shelf.find? key

/-- How a deletion handed contents back, where no two of them have the same identifier. -/
structure HandsBack (handles : List Handle) (before after : Store) : Prop where
  /-- Every content was there, and was handed back once. -/
  released : after.shelf.released = before.shelf.released + handles.length
  /-- The content of every slot that is still loaded is as before. -/
  kept : ∀ id facet handle, after.grid.slotAt id facet = .loaded handle →
    ∃ content, before.shelf.find? handle.id = some content ∧
      after.shelf.find? handle.id = some content

theorem grid_discard (store : Store) (ids : List ItemId) :
    (store.discard ids).2.grid = (store.grid.discard ids).2 := by
  simp only [discard, grid_publishFor]

theorem shelf_discard (store : Store) (ids : List ItemId) : (store.discard ids).2.shelf =
    store.shelf.takeBackAll (store.grid.discard ids).1.handles := by
  rw [discard, (sameStock_publishFor _ _ _).shelf, (sameStock_publishFor _ _ _).shelf]

/-- Discarding different ids removes those that are present. -/
theorem deleted_discard (hc : store.grid.Consistent) (hids : ids.Nodup) :
    store.Deleted ids (store.discard ids).1 (store.discard ids).2 := by
  refine ⟨Grid.ids_dropEntries hids, fun id => ?_, ?_, ?_, fun key => ?_⟩
  · rw [grid_discard]
    exact store.grid.find?_removed ids id
  · rw [grid_discard]
    exact store.grid.ids_discard ids
  · rw [grid_discard]
    exact (Grid.consistent_discard hc ids).selectionCount_eq
  · rw [shelf_discard, Shelf.find?_takeBackAll]
    exact congrArg (fun handles => if ⟨key⟩ ∈ handles then none else store.shelf.find? key)
      (store.grid.handles_dropEntries ids)

/-- A deletion tells its request how it went, and nothing that is shown changes by that. -/
theorem Deleted.moveRequest (h : before.Deleted ids removed after) (kind : Request)
    (state : RequestStatus) : before.Deleted ids removed (after.moveRequest kind state) := by
  have hgrid := after.grid_moveRequest kind state
  have hshelf := (after.sameStock_moveRequest kind state).shelf
  refine ⟨h.removed_eq, fun id => ?_, ?_, ?_, fun key => ?_⟩
  · rw [hgrid]
    exact h.entries id
  · rw [hgrid]
    exact h.ids
  · rw [hgrid]
    exact h.count
  · rw [hshelf]
    exact h.contents key

/-- Discarding hands back the contents of what it removes, where the shelf keeps exactly the
contents of the loaded slots. -/
theorem handsBack_discard (hb : store.Balanced) (ids : List ItemId) :
    store.HandsBack (store.grid.handlesOf (store.discard ids).1) (store.discard ids).2 := by
  obtain ⟨hafter, hreleased⟩ := (store.sheds_discard ids).balanced hb
  obtain ⟨gone, hperm, hhandles⟩ := store.grid.holdings_discard ids
  refine ⟨?_, fun id facet handle hslot => ?_⟩
  · have hlost : store.grid.lost (store.discard ids).2.grid = gone.length := by
      rw [grid_discard]
      exact Grid.lost_eq_length hperm
    have hgone := congrArg List.length (hhandles.trans (store.grid.handles_dropEntries ids))
    rw [List.length_map] at hgone
    rw [hreleased, hlost, hgone]
    rfl
  · obtain ⟨content, hcontent, -⟩ := hafter.exists_content hslot
    refine ⟨content, ?_, hcontent⟩
    rw [shelf_discard, Shelf.find?_takeBackAll] at hcontent
    split at hcontent
    · cases hcontent
    · exact hcontent

theorem HandsBack.moveRequest {handles : List Handle} (h : before.HandsBack handles after)
    (kind : Request) (state : RequestStatus) :
    before.HandsBack handles (after.moveRequest kind state) := by
  have hsame := after.sameStock_moveRequest kind state
  refine ⟨?_, fun id facet handle hslot => ?_⟩
  · rw [hsame.shelf]
    exact h.released
  · rw [hsame.bytes.slots] at hslot
    rw [hsame.shelf]
    exact h.kept id facet handle hslot

/-- A deletion that succeeded removes those of different targets that are present, and hands their
contents back. -/
theorem deleted_resume (hc : store.grid.Consistent) (hids : (targets.map (·.1)).Nodup) :
    ∃ removed after, store.resume (.delete targets) (.settled (.ok ())) =
        some (after, .done (.ok (.ids removed))) ∧
      store.Deleted (targets.map (·.1)) removed after ∧
      (store.Balanced → store.HandsBack (store.grid.handlesOf removed) after) := by
  have hresume : store.resume (.delete targets) (.settled (.ok ())) =
      some ((store.forget.discard (targets.map (·.1))).2.moveRequest .delete .succeeded,
        .done (.ok (.ids (store.forget.discard (targets.map (·.1))).1))) := rfl
  have hdeleted : store.forget.Deleted (targets.map (·.1)) _ _ := deleted_discard hc hids
  have hended := hdeleted.moveRequest .delete .succeeded
  refine ⟨_, _, hresume,
    ⟨hended.removed_eq, hended.entries, hended.ids, hended.count, hended.contents⟩, fun hb => ?_⟩
  have hforget : store.forget.Balanced := ⟨hb.marks, hb.drawn⟩
  have hback := (handsBack_discard hforget (targets.map (·.1))).moveRequest .delete .succeeded
  exact ⟨hback.released, hback.kept⟩

end Store

namespace Service

variable {service : Service} {operation : Operation} {call : Call} {position : Nat}

/-- The draw of a service never changes. -/
theorem draw_run (service : Service) (turns : List Turn) :
    (service.run turns).store.draw = service.store.draw :=
  run_keeps (motive := fun later => later.store.draw = service.store.draw)
    (fun later turn h => (later.turn_moves turn).draw.trans h) rfl turns

/-- An answer makes no call on the selection. -/
theorem request?_of_answer {next : Pending} {reply : Reply}
    (hm : next ∈ service.newcomers (.answer position reply)) {call : Call}
    (hcall : call ∈ next.calls) : call.request? = none := by
  rw [newcomers] at hm
  cases hresumed : service.resumed? position reply with
  | none =>
    rw [hresumed] at hm
    cases hm
  | some result =>
    rw [hresumed] at hm
    obtain ⟨pending, -, hresume⟩ := Option.bind_eq_some_iff.mp hresumed
    exact Store.request?_of_resumed hresume hm hcall

/-- An operation on the selection that waits at a position acts on what its call names, whenever
that call is answered. -/
structure ActsOn (service : Service) (operation : Operation) (call : Call) (position : Nat) :
    Prop where
  /-- It waits for its call. -/
  waits : ∃ pending, service.waiting[position]? = some pending ∧ pending.calls = [call]
  /-- Archiving that ends changes nothing that is shown. -/
  archives : operation = .archive → ∀ reply,
    service.store.SameView (service.turn (.answer position reply)).store
  /-- Deleting that succeeds removes what the call names, as far as it is present, and hands the
  contents back. -/
  deletes : operation = .delete → ∃ removed after,
    service.resumed? position (.settled (.ok ())) = some (after, .done (.ok (.ids removed))) ∧
    service.store.Deleted (call.refs.map (·.id)) removed after ∧
    (DrawsApart service.store.draw service.store.shelf.created →
      service.store.HandsBack (service.store.grid.handlesOf removed) after)

/-- The shelf of a service keeps exactly the contents of the loaded slots, where no two contents got
the same identifier. -/
theorem balanced_store (config : Config) (draw : Nat → Uuid) (turns : List Turn)
    (hdraw : DrawsApart ((fresh config draw).run turns).store.draw
      ((fresh config draw).run turns).store.shelf.created) :
    ((fresh config draw).run turns).store.Balanced := by
  rw [draw_run] at hdraw
  exact (balanced_run (Store.balanced_fresh config draw) hdraw).1

/-- An operation that took its targets and waits acts on them. -/
theorem actsOn_of_takes {targets : List (ItemId × Artifact)} {pending : Pending}
    (hc : service.store.grid.Consistent)
    (hb : DrawsApart service.store.draw service.store.shelf.created → service.store.Balanced)
    (hpending : service.waiting[position]? = some pending)
    (htakes : operation.Takes targets pending) (hcall : pending.calls = [call])
    (hids : call.refs.map (·.id) = targets.map (·.1)) (hnodup : (targets.map (·.1)).Nodup) :
    service.ActsOn operation call position := by
  refine ⟨⟨pending, hpending, hcall⟩, ?_, ?_⟩
  · rintro rfl reply
    cases htakes with
    | archive items hitems =>
      cases hresumed : service.resumed? position reply with
      | none =>
        rw [turn_of_not_resumed hresumed]
        exact ⟨rfl, rfl, rfl, rfl, rfl⟩
      | some result =>
        rw [turn_of_resumed hresumed]
        rw [resumed?, hpending, Option.bind_some] at hresumed
        cases Store.resumes_of_eq_some hresumed with
        | archive items => exact Store.sameView_moveRequest _ _ _
        | archiveLost items failure => exact Store.sameView_requestFailed _ _ _
  · rintro rfl
    cases htakes with
    | delete =>
      obtain ⟨removed, after, hresume, hdeleted, hback⟩ := Store.deleted_resume hc hnodup
      refine ⟨removed, after, ?_, hids ▸ hdeleted, fun hdraw => hback (hb hdraw)⟩
      rw [resumed?, hpending, Option.bind_some, hresume]

/-- Operations on the selection act on exactly the selection they started with. Wherever one starts,
it is turned away and does nothing, while a request of its kind runs or nothing is selected, or it
makes one call, which names the selected artifacts in view order, each once and not none; archiving
deselects exactly these, and nothing else that is shown changes. No answer makes a further call on
the selection, in whatever turns follow. As long as the operation still waits it acts on what the
call named. A deletion that succeeds removes those of them that are present then, and every other
entry is as before, in the same order; the count of the selection is that of the entries that are
still selected; and exactly the contents of what was removed are handed back. -/
theorem acts_on_selection (config : Config) (draw : Nat → Uuid) (early : List Turn)
    {operation : Operation} {kind : Request} (hkind : operation.request? = some kind) :
    let before := (fresh config draw).run early
    let started := before.turn (.start operation)
    (started = before ∧ before.newcomers (.start operation) = [] ∧
      (before.store.grid.requests.get kind = .loading ∨ before.store.grid.selected = [])) ∨
    ∃ pending call, before.newcomers (.start operation) = [pending] ∧ pending.calls = [call] ∧
      call.request? = some kind ∧ call.NamesSelection before.store.grid ∧
      Store.Started operation (call.refs.map (·.id)) before.store started.store ∧
      ∀ late,
        (∀ position reply, ∀ next ∈ (started.run late).newcomers (.answer position reply),
          ∀ other ∈ next.calls, other.request? = none) ∧
        ∀ position, started.standings late 0 = some position →
          (started.run late).ActsOn operation call position := by
  intro before started
  have hc : before.store.grid.Consistent := consistent_store config draw early
  cases hbegin : before.store.beginOnSelection kind with
  | none =>
    left
    rcases Store.begin_onSelection (before.store.begins operation) hkind with
      ⟨-, hsame, hended⟩ | ⟨hsome, -⟩
    · refine ⟨?_, hended, Store.beginOnSelection_eq_none_iff.mp hbegin⟩
      simp only [started, turn, hsame, hended, List.nil_append]
    · rw [hbegin] at hsome
      cases hsome
  | some begun =>
    right
    obtain ⟨targets, after⟩ := begun
    obtain ⟨pending, hwaits, htakes, hstarted⟩ := Store.begin_takes hkind hbegin
    obtain ⟨call, hcalls, hrequest, hrefs⟩ := htakes.calls
    have hnames := Store.namesSelection_targets hc hbegin hrefs
    have hids : call.refs.map (·.id) = targets.map (·.1) := by
      rw [hrefs]
      exact Store.ids_targets hc hbegin
    have hnodup : (targets.map (·.1)).Nodup := by
      rw [← hids, hnames.ids]
      exact hc.nodup_ids.filter _
    have hnew : before.newcomers (.start operation) = [pending] := by
      rw [newcomers, hwaits]
      rfl
    refine ⟨pending, call, hnew, hcalls, hrequest.trans hkind, hnames, hids ▸ hstarted,
      fun late => ⟨fun position reply next hm other => request?_of_answer hm,
        fun position hposition => ?_⟩⟩
    have hrun : started.run late = (fresh config draw).run (early ++ .start operation :: late) :=
      (run_append _ early (.start operation :: late)).symm
    have hpending : (started.run late).waiting[position]? = some pending :=
      (getElem?_standings hposition).trans (getElem?_newcomer (by simp [hnew]))
    rw [hrun] at hpending ⊢
    exact actsOn_of_takes (consistent_store config draw _) (balanced_store config draw _) hpending
      htakes hcalls hids hnodup

/-- Two of three images are selected and deleted. In the meantime the view is cleared and the second
comes back with a small image, as does the third, which is selected now. The deletion removes the
second with its content and leaves the third selected. -/
theorem acts_on_selection_refilled :
    let first : Artifact := ⟨"s", "a.jpg", .image⟩
    let second : Artifact := ⟨"s", "b.jpg", .image⟩
    let third : Artifact := ⟨"s", "c.jpg", .image⟩
    let early : List Turn := [.command (.add [first, second, third]),
      .command (.mark (some [second.id, first.id]) true)]
    let late : List Turn := [.command (.clear true), .command (.add [third, second]),
      .start (.thumbnails [second.id, third.id] 2), .answer 0 (.fetched [.ok "b", .ok "c"]),
      .command (.mark (some [third.id]) true)]
    let before := (fresh .standard .supply).run early
    let service := (before.turn (.start .delete)).run late
    Operation.delete.request? = some .delete ∧
      (before.turn (.start .delete)).standings late 0 = some 0 ∧
      ∃ call after, service.ActsOn .delete call 0 ∧
        call.refs.map (·.id) = [first.id, second.id] ∧
        service.resumed? 0 (.settled (.ok ())) = some (after, .done (.ok (.ids [second.id]))) ∧
        after.grid.ids = [third.id] ∧ after.grid.selectionCount = 1 ∧
        after.shelf.released = service.store.shelf.released + 1 := by
  intro first second third early late before service
  have hstanding : (before.turn (.start .delete)).standings late 0 = some 0 := by decide +kernel
  refine ⟨rfl, hstanding, ?_⟩
  have hstarts : before.newcomers (.start .delete) ≠ [] := by decide +kernel
  have hselected : before.store.grid.ids.filter before.store.grid.isSelected =
      [first.id, second.id] := by decide +kernel
  have hpresent : [first.id, second.id].filter service.store.grid.contains = [second.id] := by
    decide +kernel
  have hshown : service.store.grid.ids.filter (· ∉ [second.id]) = [third.id] := by decide +kernel
  have hloaded : (service.store.grid.handlesOf [second.id]).length = 1 := by decide +kernel
  have hcreated : service.store.shelf.created = 2 := by decide +kernel
  have hdraw : DrawsApart service.store.draw service.store.shelf.created := by
    have hsame : service.store.draw = Uuid.supply :=
      (draw_run _ late).trans ((before.turn_moves _).draw.trans (draw_run _ early))
    rw [hcreated, hsame]
    unfold DrawsApart
    decide +kernel
  have hstays : service.store.grid.isSelected third.id = true := by decide +kernel
  have hacts := acts_on_selection .standard .supply early
    (show Operation.delete.request? = some .delete from rfl)
  have hbefore : (fresh .standard .supply).run early = before := rfl
  have hservice : (before.turn (.start .delete)).run late = service := rfl
  rw [hbefore] at hacts
  rcases hacts with ⟨-, hnone, -⟩ | ⟨pending, call, -, -, -, hnames, -, hlate⟩
  · exact absurd hnone hstarts
  have hon := (hlate late).2 0 hstanding
  rw [hservice] at hon
  clear_value service before
  have hids := hnames.ids.trans hselected
  obtain ⟨removed, after, hresumed, hdeleted, hback⟩ := hon.deletes rfl
  have hremoved : removed = [second.id] := by rw [hdeleted.removed_eq, hids, hpresent]
  subst hremoved
  have hthird : after.grid.ids = [third.id] := hdeleted.ids.trans hshown
  have hselects : after.grid.isSelected third.id = true := by
    rw [Grid.isSelected, hdeleted.entries, if_neg (by decide +kernel)]
    exact hstays
  refine ⟨call, after, hon, hids, hresumed, hthird, ?_, ?_⟩
  · rw [hdeleted.count, hthird, List.filter_cons_of_pos hselects]
    rfl
  · rw [(hback hdraw).released, hloaded]

end Service

end MediaGrid
