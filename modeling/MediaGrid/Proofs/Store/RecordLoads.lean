import Mathlib.Data.List.Induction
import MediaGrid.Proofs.Grid.Amending
import MediaGrid.Proofs.Store.Telling
import MediaGrid.Proofs.Store.Waiting

/-!
# Loads of metadata that overlap

A load of metadata claims the entries that have none, and when it settles it changes the slots of
its claim where metadata is being asked for, and no others. A slot does not remember who asked.
So a load may settle the slot of a later one, if its entry was dropped and added again in the
meantime; this takes two loads that wait with the same id in their claims. Where no other load
that waits has an id in its claim, the slot is the load's own: its metadata has been asked for
ever since the claim. What the backend answers is free, but for records of artifacts that it was
not asked for.
-/

namespace MediaGrid

namespace Grid

variable {grid : Grid} {id : ItemId}

/-- Setting the metadata of another id, or of none that is asked for, concerns nobody else. -/
theorem metadata?_giveUpRecords {ids : List ItemId} (h : id ∉ ids ∨ ¬grid.asks id) :
    (grid.giveUpRecords ids).metadata? id = grid.metadata? id := by
  induction ids generalizing grid with
  | nil => rfl
  | cons head rest ih =>
    rw [giveUpRecords, List.foldl_cons]
    by_cases hhead : grid.metadata? head = some .pending
    · rw [if_pos hhead]
      have hne : id ≠ head := by
        rintro rfl
        exact h.elim (fun hout => hout List.mem_cons_self) fun hasks => hasks hhead
      have hsame := grid.metadata?_setMetadata head .empty id
      rw [if_neg hne] at hsame
      refine (ih ?_).trans hsame
      rw [asks, hsame]
      exact h.imp_left fun hout hm => hout (List.mem_cons_of_mem _ hm)
    · rw [if_neg hhead]
      exact ih (h.imp_left fun hout hm => hout (List.mem_cons_of_mem _ hm))

/-- Records are stored under their own ids, where metadata is being asked for. -/
theorem metadata?_storeRecords {records : List (Artifact × Metadata)}
    (h : (∀ row ∈ records, row.1.id ≠ id) ∨ ¬grid.asks id) :
    (grid.storeRecords records).2.metadata? id = grid.metadata? id := by
  induction records generalizing grid with
  | nil => rfl
  | cons row rest ih =>
    rw [storeRecords]
    split
    · rename_i hrow
      have hne : id ≠ row.1.id := by
        rintro rfl
        exact h.elim (fun hout => hout row List.mem_cons_self rfl) fun hasks => hasks hrow
      have hsame := grid.metadata?_setMetadata row.1.id (.loaded row.2) id
      rw [if_neg hne] at hsame
      refine (ih ?_).trans hsame
      rw [asks, hsame]
      exact h.imp_left fun hout other hm => hout other (List.mem_cons_of_mem _ hm)
    · exact ih (h.imp_left fun hout other hm => hout other (List.mem_cons_of_mem _ hm))

/-- Settling a claim changes the slots of the claim and of the records, where metadata is being
asked for. -/
theorem metadata?_settleRecords {claimed : List ItemId} {records : List (Artifact × Metadata)}
    (hrecords : ∀ row ∈ records, row.1.id ∈ claimed) (h : id ∉ claimed ∨ ¬grid.asks id) :
    (grid.settleRecords claimed records).2.metadata? id = grid.metadata? id := by
  have hstored : (grid.storeRecords records).2.metadata? id = grid.metadata? id :=
    metadata?_storeRecords <| h.imp_left fun hout row hm he => hout (he ▸ hrecords row hm)
  refine (metadata?_giveUpRecords ?_).trans hstored
  rw [asks, hstored]
  exact h

/-- Amending concerns the ids that are given, where metadata is loaded. -/
theorem metadata?_amendRecords {update : Metadata} {ids : List ItemId}
    (h : id ∈ ids → ∀ record, grid.metadata? id ≠ some (.loaded record)) :
    (grid.amendRecords update ids).2.metadata? id = grid.metadata? id := by
  rw [metadata?_amendRecords_eq]
  split
  · rename_i hm
    exact amend_of_not_loaded (h hm)
  · rfl

/-- The artifacts of a claim stand beside their own ids. -/
theorem id_of_mem_claimRecords
    (hnamed : ∀ id entry, grid.find? id = some entry → entry.ref.id = id) {ids : List ItemId}
    {row : ItemId × Artifact} (h : row ∈ (grid.claimRecords ids).1) : row.2.id = row.1 := by
  induction ids generalizing grid with
  | nil => cases h
  | cons head rest ih =>
    rw [claimRecords] at h
    split at h
    · exact ih hnamed h
    · rename_i entry hentry
      split at h
      · rcases List.mem_cons.mp h with rfl | h
        · exact hnamed head entry hentry
        · refine ih (fun id found hfound => ?_) h
          obtain ⟨old, hold, href⟩ := (sameUpTo_setMetadata grid head .pending).exists_before
            Entry.ref (fun _ => rfl) hfound
          rw [← href]
          exact hnamed id old hold
      · exact ih hnamed h

end Grid

/-- The ids whose records an edit amends after a page. -/
def Purpose.amended : Purpose → List ItemId
  | .report => []
  | .edit ids _ => ids

namespace Pending

/-- The claim of metadata that an operation waits with. -/
def claims : Pending → List (ItemId × Artifact)
  | .pageRecords _ _ claimed => claimed
  | .records claimed => claimed
  | _ => []

theorem described_eq (pending : Pending) : pending.described = pending.claims.map (·.1) := by
  cases pending <;> rfl

/-- The artifacts that metadata was asked for have their ids in the claim. -/
theorem described_of_asked {pending : Pending}
    (hnamed : ∀ row ∈ pending.claims, row.2.id = row.1) {ref : Artifact}
    (h : ref ∈ pending.claims.map (·.2)) : ref.id ∈ pending.described := by
  obtain ⟨asked, hasked, rfl⟩ := List.mem_map.mp h
  rw [hnamed asked hasked, described_eq]
  exact List.mem_map_of_mem hasked

/-- The ids whose records are amended once the metadata came, as part of an edit. -/
def amended : Pending → List ItemId
  | .pageRecords run _ _ => run.purpose.amended
  | _ => []

end Pending

namespace Store

variable (store : Store)

/-! ## What a load changes when it settles -/

theorem metadata?_moveRequest (kind : Request) (state : RequestStatus) (id : ItemId) :
    (store.moveRequest kind state).grid.metadata? id = store.grid.metadata? id := by
  rw [grid_moveRequest]
  rfl

/-- What comes after a page changes metadata only as part of an edit, where it is loaded. -/
theorem metadata?_afterPage {run : PageRun} {id : ItemId}
    (h : id ∈ run.purpose.amended → ∀ record, store.grid.metadata? id ≠ some (.loaded record))
    (result : Except Failure (List ItemId)) :
    (store.afterPage run result).1.grid.metadata? id = store.grid.metadata? id := by
  unfold afterPage
  cases hpurpose : run.purpose with
  | report => rfl
  | edit ids update =>
    rw [hpurpose] at h
    refine (metadata?_moveRequest _ _ _ id).trans ?_
    simp only [grid_publishFor]
    exact Grid.metadata?_amendRecords h

theorem metadata?_offerCompletions (search : String) (completions : List String) (id : ItemId) :
    (store.offerCompletions search completions).grid.metadata? id = store.grid.metadata? id := by
  unfold offerCompletions
  split
  · rw [grid_commit, Grid.setCompletions?]
    split <;> rfl
  · rfl

variable {store} in
/-- When metadata came or failed, the slots that change belong to the claim and were being asked
for. -/
theorem metadata?_settled {pending : Pending}
    {outcome : Except Failure (List (Artifact × Metadata))}
    {result : Store × Progress} (h : store.resume pending (.records outcome) = some result)
    (hrecords : ∀ records, outcome = .ok records → ∀ row ∈ records, row.1.id ∈ pending.described)
    {id : ItemId}
    (hamended : id ∈ pending.amended → ∀ record, store.grid.metadata? id ≠ some (.loaded record))
    (hid : id ∉ pending.described ∨ ¬store.grid.asks id) :
    result.1.grid.metadata? id = store.grid.metadata? id := by
  have hstored : ∀ claimed records, (∀ row ∈ records, row.1.id ∈ claimed.map (·.1)) →
      (id ∉ claimed.map (·.1) ∨ ¬store.grid.asks id) →
      (store.storeRecords claimed records).2.grid.metadata? id = store.grid.metadata? id := by
    intro claimed records hrows hclaim
    simp only [storeRecords, grid_publishFor]
    exact Grid.metadata?_settleRecords hrows hclaim
  -- An edit that goes on after its page finds the slot as it was, and so not loaded.
  have hended : ∀ {middle : Store} {run : PageRun} {state : RequestStatus}
      {outcome : Except Failure (List ItemId)},
      (id ∈ run.purpose.amended → ∀ record, store.grid.metadata? id ≠ some (.loaded record)) →
      middle.grid.metadata? id = store.grid.metadata? id →
      ((middle.moveRequest .query state).afterPage run outcome).1.grid.metadata? id =
        store.grid.metadata? id := by
    intro middle run state outcome hrun hsame
    have hmoved := (metadata?_moveRequest middle .query state id).trans hsame
    refine (metadata?_afterPage _ (fun hm => ?_) outcome).trans hmoved
    rw [hmoved]
    exact hrun hm
  cases resumes_of_eq_some h with
  | pageRecords run added claimed records =>
    exact hended hamended (hstored claimed records (hrecords records rfl) hid)
  | pageRecordsLost run added claimed failure =>
    exact hended hamended (Grid.metadata?_giveUpRecords hid)
  | records claimed records => exact hstored claimed records (hrecords records rfl) hid
  | recordsLost claimed failure => exact Grid.metadata?_giveUpRecords hid
  | suggestRecords search refs fragments records => exact metadata?_offerCompletions _ _ _ id
  | suggestRecordsLost search refs fragments failure => rfl

end Store

namespace Service

theorem claims_of_not_described {pending : Pending} (h : pending.described = []) :
    pending.claims = [] := by
  rw [Pending.described_eq] at h
  exact List.map_eq_nil_iff.mp h

/-- In the claims of what starts to wait, the artifacts stand beside their own ids. -/
theorem named_newcomers {service : Service} (hc : service.store.grid.Consistent) (turn : Turn) :
    ∀ pending ∈ service.newcomers turn, ∀ row ∈ pending.claims, row.2.id = row.1 := by
  intro pending hm row hrow
  cases turn with
  | command command => cases hm
  | start operation =>
    rcases Store.waits_begin (service.store.begins operation) hm with
      ⟨run, rfl⟩ | ⟨ids, rfl⟩ | ⟨-, hnone⟩
    · cases hrow
    · exact Grid.id_of_mem_claimRecords hc.id_ref hrow
    · rw [claims_of_not_described hnone] at hrow
      cases hrow
  | answer position reply =>
    cases hresumed : service.resumed? position reply with
    | none =>
      simp only [newcomers, hresumed] at hm
      cases hm
    | some result =>
      obtain ⟨answered, -, hresume⟩ := Option.bind_eq_some_iff.mp hresumed
      simp only [newcomers, hresumed] at hm
      rcases Store.waits_resume hresume hm with
        ⟨run, rfl⟩ | ⟨run, page, added, -, rfl⟩ | ⟨-, hnone, -⟩
      · cases hrow
      · exact Grid.id_of_mem_claimRecords (Grid.consistent_mergePage hc run.epoch page).id_ref hrow
      · rw [claims_of_not_described hnone] at hrow
        cases hrow

/-- Metadata that is asked for after a turn was so before, unless the operation that went on had
claimed it, or was claimed by a newcomer. -/
theorem asks_turn {service : Service} (h : service.Covered) {turn : Turn} {id : ItemId}
    (hasks : (service.turn turn).store.grid.asks id) :
    (∃ pending ∈ service.newcomers turn, id ∈ pending.described) ∨
      service.store.grid.asks id ∧ ∀ position, service.answered? turn = some position →
        ∀ pending, service.waiting[position]? = some pending → id ∉ pending.described := by
  cases turn with
  | command command =>
    refine Or.inr ⟨(service.store.keeps_obey command).owes (.record id) hasks, ?_⟩
    exact fun _ he => by cases he
  | start operation =>
    have hanswers := Store.begin_answers (service.store.begins operation)
    rcases hanswers.owes (.record id) hasks with ⟨hbefore, -⟩ | hnew
    · exact Or.inr ⟨hbefore, fun _ he => by cases he⟩
    · exact Or.inl hnew
  | answer position reply =>
    cases hresumed : service.resumed? position reply with
    | none =>
      rw [turn_of_not_resumed hresumed] at hasks
      refine Or.inr ⟨hasks, fun _ he => ?_⟩
      simp only [answered?, hresumed] at he
      cases he
    | some result =>
      obtain ⟨answered, hanswered, hresume⟩ := Option.bind_eq_some_iff.mp hresumed
      rw [turn_of_resumed hresumed] at hasks
      have hanswers := Store.resume_answers hresume fun run he =>
        (h.runs answered (List.mem_of_getElem? hanswered) run he).2
      rcases hanswers.owes (.record id) hasks with ⟨hbefore, hnot⟩ | hnew
      · refine Or.inr ⟨hbefore, fun other he pending hpending => ?_⟩
        simp only [answered?, hresumed] at he
        cases he
        cases hanswered.symm.trans hpending
        exact hnot
      · refine Or.inl ?_
        simp only [newcomers, hresumed]
        exact hnew

/-- The metadata of an id has been asked for whenever the operations were suspended in a run. -/
def KeepsAsking (service : Service) (turns : List Turn) (id : ItemId) : Prop :=
  ∀ first rest, turns = first ++ rest → (service.run first).store.grid.asks id

/-- Another operation that waits has claimed the metadata of an id. -/
def ClaimedElsewhere (service : Service) (position : Nat) (id : ItemId) : Prop :=
  ∃ other pending, other ≠ position ∧ service.waiting[other]? = some pending ∧
    id ∈ pending.described

theorem keepsAsking_concat {service : Service} {turns : List Turn} {turn : Turn} {id : ItemId}
    (h : service.KeepsAsking turns id)
    (hlast : (service.run (turns ++ [turn])).store.grid.asks id) :
    service.KeepsAsking (turns ++ [turn]) id := by
  intro first rest he
  rcases List.eq_nil_or_concat rest with rfl | ⟨early, last, rfl⟩
  · rw [List.append_nil] at he
    exact he ▸ hlast
  · rw [List.concat_eq_append, ← List.append_assoc] at he
    exact h first early (List.append_inj_left' he rfl)

/-- Metadata that is asked for while an operation waits has been asked for ever since it started
to wait, or was claimed by another operation that waits. -/
theorem keepsAsking_or_claimedElsewhere {service : Service} (h : service.Covered)
    {turns : List Turn} {start position : Nat} {id : ItemId}
    (hstands : service.standings turns start = some position)
    (hasks : (service.run turns).store.grid.asks id) :
    service.KeepsAsking turns id ∨ (service.run turns).ClaimedElsewhere position id := by
  -- Both the metadata and the other operation are followed backwards, from the last turn on.
  induction turns using List.reverseRecOn generalizing position with
  | nil =>
    refine Or.inl fun first rest he => ?_
    rw [(List.append_eq_nil_iff.mp he.symm).1]
    exact hasks
  | append_singleton turns turn ih =>
    rw [standings_concat] at hstands
    obtain ⟨middle, hmiddle, hlast⟩ := Option.bind_eq_some_iff.mp hstands
    have hcovered : (service.run turns).Covered := run_keeps covered_turn h turns
    have hasksAfter := hasks
    rw [run_concat] at hasks ⊢
    rcases asks_turn hcovered hasks with ⟨pending, hm, hid⟩ | ⟨hbefore, hunpaid⟩
    · -- A newcomer stands before the operation, so it is another one.
      obtain ⟨other, hlt, hother⟩ := List.getElem_of_mem hm
      refine Or.inr ⟨other, pending, ?_, ?_, hid⟩
      · have hle := le_standing hlast
        omega
      · rw [waiting_turn, List.getElem?_append_left hlt, List.getElem?_eq_getElem hlt, hother]
    · rcases ih hmiddle hbefore with hkeeps | ⟨other, pending, hne, hpending, hid⟩
      · exact Or.inl (keepsAsking_concat hkeeps hasksAfter)
      · have hnot : (service.run turns).answered? turn ≠ some other :=
          fun he => hunpaid other he pending hpending hid
        obtain ⟨next, hnext⟩ := exists_standing hnot
        exact Or.inr ⟨next, pending, standing_ne hlast hnext hne,
          (getElem?_standing hnext).trans hpending, hid⟩

/-- When a load of metadata settles, the slots that change belong to its claim and are still asked
for. Unless another load that waits has the id in its claim too, such a slot has been asked for
ever since the load made its claim, so that it is the very slot that the load claimed. Records
that were there before and that an edit amends after its page are left out. -/
theorem records_settle_own (config : Config) (draw : Nat → Uuid) (early late : List Turn)
    (claim : Turn) :
    let before := (fresh config draw).run early
    let claimed := before.turn claim
    let service := claimed.run late
    ∀ pending ∈ before.newcomers claim, ∀ position, claimed.standings late 0 = some position →
      ∀ outcome, (∀ records, outcome = .ok records →
        ∀ row ∈ records, row.1 ∈ pending.claims.map (·.2)) →
      ∀ id, (id ∈ pending.amended →
        ∀ record, service.store.grid.metadata? id ≠ some (.loaded record)) →
        (service.turn (.answer position (.records outcome))).store.grid.metadata? id ≠
          service.store.grid.metadata? id →
        (id ∈ pending.described ∧ service.store.grid.asks id) ∧
          (¬service.ClaimedElsewhere position id → claimed.KeepsAsking late id) := by
  intro before claimed service pending hm position hstands outcome hrecords id hamended hchanged
  have hwaits : service.waiting[position]? = some pending :=
    (getElem?_standings hstands).trans (getElem?_newcomer hm)
  have hnamed : ∀ row ∈ pending.claims, row.2.id = row.1 :=
    named_newcomers (consistent_store config draw early) claim pending hm
  have hown : ∀ records, outcome = .ok records → ∀ row ∈ records, row.1.id ∈ pending.described :=
    fun records he row hrow => Pending.described_of_asked hnamed (hrecords records he row hrow)
  have hslot : id ∈ pending.described ∧ service.store.grid.asks id := by
    by_contra hnot
    refine hchanged ?_
    simp only [Service.turn, hwaits]
    split
    · rfl
    · rename_i hresume
      exact Store.metadata?_settled hresume hown hamended (not_and_or.mp hnot)
  have hcovered : claimed.Covered := covered_turn before claim (covered_run config draw early)
  exact ⟨hslot, (keepsAsking_or_claimedElsewhere hcovered hstands hslot.2).resolve_right⟩

/-- One load waits for the metadata of the only entry. When it comes, the slot that it is stored in
has been asked for since the load began. -/
theorem records_settle_own_described :
    let shot : Artifact := ⟨"shots", "a.jpg", .image⟩
    let added := (fresh .standard .supply).run [.command (.add [shot])]
    let claimed := added.turn (.start (.describe [shot.id]))
    let service := claimed.run [.start (.openQuery [] 0)]
    (service.turn (.answer 1 (.records (.ok [(shot, .empty)])))).store.grid.metadata? shot.id =
      some (.loaded .empty) ∧ claimed.KeepsAsking [.start (.openQuery [] 0)] shot.id := by
  intro shot added claimed service
  let request : PageRequest :=
    ⟨[], Config.standard.orderings, Config.standard.resultsPerPage, 0⟩
  have hwaiting : service.waiting = [.page ⟨request, 1, .report⟩, .records [(shot.id, shot)]] := by
    decide +kernel
  have hnobody : ¬service.ClaimedElsewhere 1 shot.id := by
    rintro ⟨other, pending, hne, hpending, hid⟩
    rw [hwaiting] at hpending
    cases other with
    | zero =>
      cases hpending
      cases hid
    | succ other =>
      obtain ⟨hlt, -⟩ := List.getElem?_eq_some_iff.mp hpending
      simp only [List.length_cons, List.length_nil] at hlt
      omega
  have hrows : ∀ records,
      (.ok [(shot, .empty)] : Except Failure (List (Artifact × Metadata))) = .ok records →
      ∀ row ∈ records, row.1 ∈ [(shot.id, shot)].map (·.2) := by
    intro records he row hrow
    cases he
    cases List.mem_singleton.mp hrow
    exact List.mem_singleton_self _
  have hsettled := records_settle_own .standard .supply [.command (.add [shot])]
    [.start (.openQuery [] 0)] (.start (.describe [shot.id])) (.records [(shot.id, shot)])
    (by decide +kernel) 1 (by decide +kernel) (.ok [(shot, .empty)]) hrows shot.id
    (fun hm => by cases hm) (by decide +kernel)
  exact ⟨by decide +kernel, hsettled.2 hnobody⟩

/-- A load is under way when the view is cleared, and the same artifact is added and loaded again.
When the first load settles, it settles the slot of the second, which still waits. A record is
stored that was asked for before the entry was added, and a failure takes back what the second
asks for, so that a third load asks for it beside the second. -/
theorem records_settle_other :
    let shot : Artifact := ⟨"shots", "a.jpg", .image⟩
    let later : List Turn :=
      [.command (.clear false), .command (.add [shot]), .start (.describe [shot.id])]
    let claimed := (fresh .standard .supply).run
      [.command (.add [shot]), .start (.describe [shot.id])]
    let service := claimed.run later
    let lost := service.turn (.answer 1 (.records (.error (.backend "gone"))))
    let loaded := service.turn (.answer 1 (.records (.ok [(shot, .empty)])))
    claimed.standings later 0 = some 1 ∧ ¬claimed.KeepsAsking later shot.id ∧
      service.store.grid.metadata? shot.id = some .pending ∧
      lost.store.grid.metadata? shot.id = some .empty ∧
      loaded.store.grid.metadata? shot.id = some (.loaded .empty) ∧
      loaded.waiting = [.records [(shot.id, shot)]] ∧
      (lost.turn (.start (.describe [shot.id]))).waiting =
        [.records [(shot.id, shot)], .records [(shot.id, shot)]] := by
  refine ⟨by decide +kernel, fun hkeeps => ?_, by decide +kernel, by decide +kernel,
    by decide +kernel, by decide +kernel, by decide +kernel⟩
  have hasks : _ = some (MetadataSlot.pending) := hkeeps [.command (.clear false)] _ rfl
  exact absurd hasks (by decide +kernel)

end Service

end MediaGrid
