import MediaGrid.Proofs.Grid.Debts
import MediaGrid.Proofs.Store.Fetches

/-!
# Who answers for what is under way

Whatever the grid shows as being under way has a waiting operation that answers for it: every
waiting slot and every metadata slot that is asked for, the query, and each request on the
selection. An operation that ends pays its debts or leaves them to one that took over: a page
run of an earlier epoch owes nothing, since clearing the view or beginning a query ended that
epoch. So nothing is under way once no operation waits.
-/

namespace MediaGrid

/-- The request on the selection that is carried on after a page. -/
def Purpose.request? : Purpose → Option Request
  | .report => none
  | .edit _ _ => some .metadataEdit

/-- The debts of a request that is carried on after a page. -/
def Purpose.debts (purpose : Purpose) (debt : Debt) : Prop :=
  ∃ kind, purpose.request? = some kind ∧ debt.concerns kind

namespace Pending

/-- The request for a page that an operation carries out. -/
def run? : Pending → Option PageRun
  | .page run => some run
  | .pageRecords run _ _ => some run
  | _ => none

/-- The ids whose metadata an operation claimed. -/
def described : Pending → List ItemId
  | .pageRecords _ _ claimed => claimed.map (·.1)
  | .records claimed => claimed.map (·.1)
  | _ => []

/-- The request on the selection that an operation carries out. -/
def request? : Pending → Option Request
  | .archive _ => some .download
  | .delete _ => some .delete
  | .edit _ _ => some .metadataEdit
  | .page run => run.purpose.request?
  | .pageRecords run _ _ => run.purpose.request?
  | _ => none

/-- Whether an operation answers for a debt. -/
def covers (pending : Pending) : Debt → Prop
  | .record id => id ∈ pending.described
  | .page epoch => ∃ run, pending.run? = some run ∧ run.epoch = epoch
  | .bulk kind => pending.request? = some kind

end Pending

namespace Store

/-- An operation that ran as far as it gets pays some debts, and answers for those it made. -/
structure Answers (before : Grid) (paid : Debt → Prop) (result : Store × Progress) : Prop where
  /-- What is owed was owed before and not paid, or is answered for by what waits. -/
  owes : ∀ debt, result.1.grid.owes debt → before.owes debt ∧ ¬paid debt ∨
    ∃ pending ∈ result.2.pendings, pending.covers debt
  /-- A page that is waited for belongs to the epoch, and there is a query. -/
  runs : ∀ pending ∈ result.2.pendings, ∀ run, pending.run? = some run →
    run.epoch = result.1.grid.epoch ∧ result.1.grid.active.isSome
  /-- The epoch does not go back. -/
  epoch : before.epoch ≤ result.1.grid.epoch
  /-- In the same epoch the query is not lost. -/
  active : result.1.grid.epoch = before.epoch → before.active.isSome →
    result.1.grid.active.isSome

variable {before middle : Grid} {paid paid' : Debt → Prop} {result : Store × Progress}

/-- What was paid before an operation is not paid by it. -/
theorem Answers.after_pays (h' : Answers middle paid' result) (h : before.Pays paid middle) :
    Answers before (fun debt => paid debt ∨ paid' debt) result where
  owes debt hd := by
    rcases h'.owes debt hd with ⟨howes, hnot⟩ | hcovered
    · exact Or.inl ⟨h.owes debt howes, fun hp =>
        hp.elim (fun hp => h.paid debt hp howes) hnot⟩
    · exact Or.inr hcovered
  runs := h'.runs
  epoch := Nat.le_trans h.epoch h'.epoch
  active he ha := by
    have hle := h.epoch
    have hle' := h'.epoch
    exact h'.active (by omega) (h.active (by omega) ha)

theorem Answers.mono (h : Answers before paid result) (hpaid : ∀ debt, paid' debt → paid debt) :
    Answers before paid' result :=
  { h with owes := fun debt hd => (h.owes debt hd).imp_left fun ho =>
      ⟨ho.1, fun hp => ho.2 (hpaid debt hp)⟩ }

theorem Answers.after_keeps (h' : Answers middle paid result) (h : before.Keeps middle) :
    Answers before paid result :=
  (h'.after_pays h.pays_none).mono fun _ => Or.inr

/-- An operation that ends answers for nothing. -/
theorem answers_done {store : Store} (h : before.Pays paid store.grid)
    (outcome : Except Failure Outcome) : Answers before paid (store, .done outcome) where
  owes debt hd := Or.inl ⟨h.owes debt hd, fun hp => h.paid debt hp hd⟩
  runs _ hm := by cases hm
  epoch := h.epoch
  active := h.active

variable (store : Store)

/-- An operation that ends where no debt was made leaves the debts alone. -/
theorem answers_ended (h : before.Keeps store.grid) (outcome : Except Failure Outcome) :
    Answers before (fun _ => False) (store, .done outcome) :=
  answers_done h.pays_none outcome

/-- An operation that waits for something else than a page, and made no debt, leaves the debts
alone. -/
theorem answers_waiting (h : before.Keeps store.grid) {pending : Pending}
    (hrun : pending.run? = none) :
    Answers before (fun _ => False) (store, .waiting pending) where
  owes debt hd := Or.inl ⟨h.owes debt hd, fun hp => hp⟩
  runs next hm run he := by
    rw [List.mem_singleton.mp hm, hrun] at he
    cases he
  epoch := h.epoch
  active := h.active

/-! ## The grid after the operations of the store -/

@[simp]
theorem grid_publishFor (ids : List ItemId) (event : List ItemId → Event) :
    (store.publishFor ids event).grid = store.grid := by
  unfold publishFor
  split <;> rfl

theorem grid_commit (changed : Option Grid) (event : Grid → Event) :
    (store.commit changed event).2.grid = changed.getD store.grid := by
  cases changed <;> rfl

theorem grid_moveRequest (kind : Request) (state : RequestStatus) :
    (store.moveRequest kind state).grid =
      { store.grid with requests := store.grid.requests.set kind state } :=
  (store.grid_commit _ _).trans (store.grid.getD_moveRequest kind state)

/-- The grid after selecting and deselecting, also where it was left alone. -/
theorem grid_mark (ids : Option (List ItemId)) (value : Bool) :
    (store.mark ids value).2.grid = (store.grid.mark ids value).2 := by
  unfold mark
  dsimp only
  split
  · rename_i hnone
    exact (Grid.mark_of_none (List.isEmpty_iff.mp hnone)).symm
  · rfl

/-- A request that ended is not owed. -/
theorem pays_moveRequest (kind : Request) {state : RequestStatus} (hstate : state ≠ .loading) :
    store.grid.Pays (·.concerns kind) (store.moveRequest kind state).grid := by
  rw [grid_moveRequest]
  exact store.grid.pays_setRequest kind hstate

theorem keeps_addAll (refs : List Artifact) : store.grid.Keeps (store.addAll refs).2.grid := by
  simp only [addAll, grid_publishFor]
  exact store.grid.keeps_addAll refs

theorem keeps_clear (keepQuery : Bool) : store.grid.Keeps (store.clear keepQuery).grid := by
  unfold clear
  dsimp only
  split <;> exact store.grid.keeps_clear keepQuery

theorem keeps_unload (facet : ByteFacet) (ids : List ItemId) :
    store.grid.Keeps (store.unload facet ids).2.grid := by
  simp only [unload, grid_publishFor]
  exact store.grid.keeps_unload facet ids

theorem keeps_discard (ids : List ItemId) : store.grid.Keeps (store.discard ids).2.grid := by
  simp only [discard, grid_publishFor]
  exact store.grid.keeps_discard ids

theorem keeps_amend (ids : List ItemId) (update : Metadata) :
    store.grid.Keeps (store.amend ids update).2.grid := by
  simp only [amend, grid_publishFor]
  exact store.grid.keeps_amendRecords update ids

theorem keeps_mark (ids : Option (List ItemId)) (value : Bool) :
    store.grid.Keeps (store.mark ids value).2.grid := by
  rw [grid_mark]
  exact store.grid.keeps_mark ids value

theorem keeps_setDialog (isOpen : Bool) :
    store.grid.Keeps (store.setDialog isOpen).2.grid := by
  rw [setDialog, grid_commit, Grid.setDialog?]
  split <;> exact .of_rest rfl rfl rfl fun _ h => h

theorem keeps_setVideo (id : ItemId) (urls : Option VideoLinks) :
    store.grid.Keeps (store.setVideo id urls).2.grid := by
  rw [setVideo, grid_commit]
  exact store.grid.keeps_setVideo id urls

theorem keeps_showVideo (urlsOf : Artifact → Option VideoLinks) (id : ItemId) :
    store.grid.Keeps (store.showVideo urlsOf id).2.grid := by
  rcases store.showVideo_cases urlsOf id with ⟨hkept, -⟩ | ⟨-, urls, -, -, hset⟩
  · rw [hkept]
    exact .refl _
  · rw [hset]
    exact store.keeps_setVideo id _

theorem keeps_typeSearch (search : String) :
    store.grid.Keeps (store.typeSearch search).2.grid := by
  rw [typeSearch, grid_commit, Grid.setSearch?]
  split <;> exact .of_rest rfl rfl rfl fun _ h => h

theorem keeps_offerCompletions (search : String) (completions : List String) :
    store.grid.Keeps (store.offerCompletions search completions).grid := by
  unfold offerCompletions
  split
  · rw [grid_commit, Grid.setCompletions?]
    split <;> exact .of_rest rfl rfl rfl fun _ h => h
  · exact .refl _

theorem pays_storeRecords (claimed : List (ItemId × Artifact))
    (records : List (Artifact × Metadata)) :
    store.grid.Pays (fun debt => ∃ id ∈ claimed.map (·.1), debt = .record id)
      (store.storeRecords claimed records).2.grid := by
  simp only [storeRecords, grid_publishFor]
  exact store.grid.pays_settleRecords _ records

theorem pays_giveUpRecords (claimed : List (ItemId × Artifact)) :
    store.grid.Pays (fun debt => ∃ id ∈ claimed.map (·.1), debt = .record id)
      (store.giveUpRecords claimed).grid :=
  store.grid.pays_giveUpRecords _

/-- Settling claims of byte facets concerns no debt. -/
theorem keeps_settleClaims (facet : ByteFacet) (state : Store × LoadTally)
    (settled : List ((Claim × Artifact) × Except Failure String)) :
    state.1.grid.Keeps (settleClaims facet state settled).1.grid := by
  induction settled generalizing state with
  | nil => exact .refl _
  | cons head rest ih =>
    have hstep : state.1.grid.Keeps (settleClaim facet state head.1.1 head.2).1.grid := by
      rcases grid_settleClaim facet state head.1.1 head.2 with ⟨-, slot, -, hgrid⟩ | ⟨-, hgrid⟩
      · rw [hgrid]
        exact state.1.grid.keeps_setSlot _ _ _
      · rw [hgrid]
        exact .refl _
    exact hstep.trans (ih _)

/-- A command makes no debt. -/
theorem keeps_obey (command : Command) : store.grid.Keeps (store.obey command).grid := by
  cases command with
  | add refs => exact store.keeps_addAll refs
  | clear keepQuery => exact store.keeps_clear keepQuery
  | unload facet ids => exact store.keeps_unload facet ids
  | mark ids value => exact store.keeps_mark ids value
  | dialog isOpen => exact store.keeps_setDialog isOpen
  | showVideo urlsOf id => exact store.keeps_showVideo urlsOf id
  | hideVideo id => exact store.keeps_setVideo id none
  | typeSearch search => exact store.keeps_typeSearch search
  | pick completion => exact store.keeps_typeSearch _

/-! ## Between two calls -/

theorem answers_finishEdit (ids : List ItemId) (update : Metadata) :
    Answers store.grid (·.concerns .metadataEdit) (store.finishEdit ids update) :=
  answers_done ((store.keeps_amend ids update).trans_pays
    (pays_moveRequest _ _ (by simp))) _

theorem answers_afterPage (run : PageRun) (result : Except Failure (List ItemId)) :
    Answers store.grid run.purpose.debts (store.afterPage run result) := by
  unfold afterPage
  cases hpurpose : run.purpose with
  | report =>
    refine answers_done { Grid.Keeps.refl _ with paid := ?_ } _
    rintro debt ⟨kind, hkind, -⟩
    cases hkind
  | edit ids update =>
    refine (store.answers_finishEdit ids update).mono ?_
    rintro debt ⟨kind, hkind, hconcerns⟩
    cases hkind
    exact hconcerns

/-- Asking for a page makes the query a debt, for which what waits then answers. -/
theorem answers_askPage (queries : List Query) (page epoch : Nat) (purpose : Purpose)
    (hepoch : epoch = store.grid.epoch) (hactive : store.grid.active.isSome)
    (hasks : ∀ id, store.grid.asks id → before.asks id)
    (hrequests : store.grid.requests = before.requests) (hle : before.epoch ≤ store.grid.epoch) :
    Answers before purpose.debts (store.askPage queries page epoch purpose) := by
  have hgrid := store.grid_moveRequest .query .loading
  refine ⟨fun debt hd => ?_, fun pending hm run he => ?_, ?_, fun _ _ => ?_⟩
  · simp only [askPage, hgrid, Progress.pendings, List.mem_singleton, exists_eq_left] at hd ⊢
    cases debt with
    | record id =>
      have hnot : ¬purpose.debts (.record id) := by
        rintro ⟨_, -, hno⟩
        exact hno
      exact Or.inl ⟨hasks id hd, hnot⟩
    | page other => exact Or.inr ⟨_, rfl, hepoch.trans hd.2.symm⟩
    | bulk kind =>
      by_cases hkind : purpose.request? = some kind
      · exact Or.inr hkind
      · obtain ⟨hne, hloading⟩ := hd
        rw [Requests.get_set, if_neg hne, hrequests] at hloading
        refine Or.inl ⟨⟨hne, hloading⟩, ?_⟩
        rintro ⟨other, hother, rfl⟩
        exact hkind hother
  · simp only [askPage, Progress.pendings, List.mem_singleton] at hm
    subst hm
    cases he
    simp only [askPage, hgrid]
    exact ⟨hepoch, hactive⟩
  · simp only [askPage, hgrid]
    exact hle
  · simp only [askPage, hgrid]
    exact hactive

theorem answers_openQuery (queries : List Query) (page : Nat) (purpose : Purpose) :
    Answers store.grid purpose.debts (store.openQuery queries page purpose) :=
  answers_askPage _ _ _ _ _ rfl rfl (fun _ h => h) rfl (Nat.le_succ _)

/-- Ending a page pays the query and leaves the rest to the request it was part of. -/
theorem answers_endPage (run : PageRun) (result : Except Failure (List ItemId))
    {state : RequestStatus} (hstate : state ≠ .loading) :
    Answers store.grid (fun debt => debt.concerns .query ∨ run.purpose.debts debt)
      ((store.moveRequest .query state).afterPage run result) :=
  (answers_afterPage _ run result).after_pays (store.pays_moveRequest .query hstate)

/-- What a run of a page answers for. -/
theorem covers_page {run : PageRun} {debt : Debt} (h : (Pending.page run).covers debt) :
    (debt.concerns .query ∧ debt = .page run.epoch) ∨ run.purpose.debts debt := by
  cases debt with
  | record id => cases h
  | page epoch =>
    obtain ⟨other, ⟨⟩, rfl⟩ := h
    exact Or.inl ⟨rfl, rfl⟩
  | bulk kind => exact Or.inr ⟨kind, h, rfl⟩

theorem covers_pageRecords {run : PageRun} {added : List ItemId}
    {claimed : List (ItemId × Artifact)} {debt : Debt}
    (h : (Pending.pageRecords run added claimed).covers debt) :
    (∃ id ∈ claimed.map (·.1), debt = .record id) ∨ debt.concerns .query ∨
      run.purpose.debts debt := by
  cases debt with
  | record id => exact Or.inl ⟨id, h, rfl⟩
  | page epoch => exact Or.inr (Or.inl rfl)
  | bulk kind => exact Or.inr (Or.inr ⟨kind, h, rfl⟩)

theorem covers_records {claimed : List (ItemId × Artifact)} {debt : Debt}
    (h : (Pending.records claimed).covers debt) : ∃ id ∈ claimed.map (·.1), debt = .record id := by
  cases debt with
  | record id => exact ⟨id, h, rfl⟩
  | page epoch =>
    obtain ⟨run, he, -⟩ := h
    cases he
  | bulk kind => cases h

/-- A page that comes too late pays nothing, as its epoch is over. -/
theorem answers_stale {run : PageRun} (hepoch : run.epoch ≠ store.grid.epoch)
    (result : Except Failure (List ItemId)) :
    Answers store.grid (Pending.page run).covers (store.afterPage run result) := by
  have hstale : store.grid.Pays (· = .page run.epoch) store.grid :=
    { Grid.Keeps.refl _ with paid := by rintro _ rfl hd; exact hepoch hd.2 }
  exact ((store.answers_afterPage run result).after_pays hstale).mono fun _ hp =>
    (covers_page hp).imp_left And.right

/-- A run that asks for the metadata of what its page added answers for it, and goes on
answering for its page and its request. -/
theorem answers_pageRecords {run : PageRun} {added : List ItemId}
    {claimed : List (ItemId × Artifact)} {after : Store}
    (hkeeps : ∀ debt, after.grid.owes debt → store.grid.owes debt ∨
      ∃ id ∈ claimed.map (·.1), debt = .record id)
    (hepoch : after.grid.epoch = store.grid.epoch) (hrun : run.epoch = store.grid.epoch)
    (hactive : after.grid.active.isSome) :
    Answers store.grid (Pending.page run).covers
      (after, .waiting (.pageRecords run added claimed)) := by
  refine ⟨fun debt hd => ?_, fun pending hm other he => ?_, Nat.le_of_eq hepoch.symm,
    fun _ _ => hactive⟩
  · simp only [Progress.pendings, List.mem_singleton, exists_eq_left]
    by_cases hcovers : (Pending.page run).covers debt
    · refine Or.inr ?_
      cases debt with
      | record id => cases hcovers
      | page epoch => exact hcovers
      | bulk kind => exact hcovers
    · rcases hkeeps debt hd with hbefore | ⟨id, hm, rfl⟩
      · exact Or.inl ⟨hbefore, hcovers⟩
      · exact Or.inr hm
  · simp only [Progress.pendings, List.mem_singleton] at hm
    subst hm
    cases he
    exact ⟨hrun.trans hepoch.symm, hactive⟩

theorem answers_mergePage (run : PageRun) (page : Page)
    (hrun : run.epoch = store.grid.epoch → store.grid.active.isSome) :
    Answers store.grid (Pending.page run).covers (store.mergePage run page) := by
  have hmerge := store.grid.keeps_mergePage run.epoch page
  unfold mergePage
  split
  · rename_i grid hnone
    rcases Grid.mergePage_eq_none hnone with ⟨hepoch, rfl⟩ | ⟨hepoch, hactive, -⟩
    · exact store.answers_stale hepoch _
    · rw [hactive] at hrun
      exact absurd (hrun hepoch) Bool.false_ne_true
  · rename_i merged grid hsome
    rw [hsome] at hmerge
    obtain ⟨hepoch, active, -, hgrid⟩ := Grid.mergePage_eq_some hsome
    have hgridEpoch : grid.epoch = store.grid.epoch := by rw [hgrid]; exact Grid.epoch_addAll _ _
    have hclaim := grid.sameUpTo_claimRecords merged.added
    dsimp only
    rw [publish, grid_publishFor]
    split
    · -- Nothing is left to describe, so the page is settled at once.
      rename_i hempty
      have hclaimed := List.isEmpty_iff.mp hempty
      have hkeeps : grid.Keeps (grid.claimRecords merged.added).2 :=
        .of_records hclaim fun id ha => (Grid.asks_claimRecords ha).resolve_right
          (by rw [hclaimed]; exact List.not_mem_nil)
      exact (Answers.after_keeps (answers_endPage _ run _ (by simp))
        (hmerge.trans hkeeps)).mono fun _ hp => (covers_page hp).imp_left And.left
    · refine store.answers_pageRecords (fun debt hd => ?_) (hclaim.epoch_eq.trans hgridEpoch)
        hepoch (by rw [hclaim.active_eq, hgrid]; rfl)
      cases debt with
      | record id =>
        rcases Grid.asks_claimRecords hd with ha | hm
        · exact Or.inl (hmerge.owes (.record id) ha)
        · exact Or.inr ⟨id, hm, rfl⟩
      | page epoch =>
        refine Or.inl (hmerge.owes (.page epoch) ?_)
        exact ⟨hclaim.requests_eq ▸ hd.1, hd.2.trans hclaim.epoch_eq⟩
      | bulk kind =>
        refine Or.inl (hmerge.owes (.bulk kind) ?_)
        exact ⟨hd.1, hclaim.requests_eq ▸ hd.2⟩

theorem answers_losePage (run : PageRun) (failure : Failure) :
    Answers store.grid (Pending.page run).covers (store.losePage run failure) := by
  have hwithdraw := store.grid.keeps_withdrawPage run.epoch
  unfold losePage
  cases hlost : store.grid.withdrawPage? run.epoch with
  | none =>
    have hepoch : run.epoch ≠ store.grid.epoch := by
      intro he
      simp [Grid.withdrawPage?, he] at hlost
    exact store.answers_stale hepoch _
  | some grid =>
    rw [hlost] at hwithdraw
    exact (Answers.after_keeps (answers_endPage { store with grid := grid } run _
      (by simp)) hwithdraw).mono fun _ hp => (covers_page hp).imp_left And.left

/-- A request on the selection that starts is a debt, for which what waits then answers. -/
theorem answers_bulk {kind : Request} {after : Store} {pending : Pending}
    (hkeeps : (store.moveRequest kind .loading).grid.Keeps after.grid)
    (hrequest : pending.request? = some kind) (hrun : pending.run? = none)
    (hkind : kind ≠ .query) :
    Answers store.grid (fun _ => False) (after, .waiting pending) := by
  have hgrid := store.grid_moveRequest kind .loading
  have hepoch : (store.moveRequest kind .loading).grid.epoch = store.grid.epoch := by rw [hgrid]
  have hactive : (store.moveRequest kind .loading).grid.active = store.grid.active := by
    rw [hgrid]
  refine ⟨fun debt hd => ?_, fun other hm run he => ?_, hepoch ▸ hkeeps.epoch, fun he ha => ?_⟩
  · simp only [Progress.pendings, List.mem_singleton, exists_eq_left]
    have howes := hkeeps.owes debt hd
    rw [hgrid] at howes
    cases debt with
    | record id => exact Or.inl ⟨howes, fun hp => hp⟩
    | page epoch =>
      obtain ⟨hloading, he⟩ := howes
      rw [Requests.get_set, if_neg hkind.symm] at hloading
      exact Or.inl ⟨⟨hloading, he⟩, fun hp => hp⟩
    | bulk other =>
      obtain ⟨hother, hloading⟩ := howes
      rw [Requests.get_set] at hloading
      split at hloading
      · rename_i hsame
        exact Or.inr (hsame ▸ hrequest)
      · exact Or.inl ⟨⟨hother, hloading⟩, fun hp => hp⟩
  · simp only [Progress.pendings, List.mem_singleton] at hm
    subst hm
    rw [hrun] at he
    cases he
  · exact hkeeps.active (he.trans hepoch.symm) (hactive ▸ ha)

/-- An edit that fills the view again goes on answering for its request. -/
theorem answers_rebuild (ids : List ItemId) (update : Metadata) :
    Answers store.grid (·.concerns .metadataEdit) (store.rebuild ids update) := by
  have hdialog : store.grid.Keeps (store.setDialog false).2.forget.grid :=
    store.keeps_setDialog false
  unfold rebuild
  dsimp only
  generalize (store.setDialog false).2.forget = closed at hdialog ⊢
  have hthumbnails := hdialog.trans (closed.keeps_unload .thumbnail closed.grid.ids)
  have himages := hthumbnails.trans (keeps_unload _ .full closed.grid.ids)
  have hcleared := himages.trans (keeps_clear _ true)
  split
  · exact (answers_finishEdit _ ids update).after_keeps hcleared
  · exact ((answers_openQuery _ _ 0 (.edit ids update)).after_keeps hcleared).mono
      fun _ hp => ⟨.metadataEdit, rfl, hp⟩

/-- A load makes no debt and answers for none. -/
theorem answers_nextChunk (load : ByteLoad) (h : before.Keeps store.grid) :
    Answers before (fun _ => False) (store.nextChunk load) := by
  unfold nextChunk
  split
  · exact store.answers_ended h _
  · exact store.answers_waiting h rfl

/-- Asking for metadata makes it a debt, for which what waits then answers. -/
theorem answers_describe (ids : List ItemId) :
    Answers store.grid (fun _ => False) ({ store with grid := (store.grid.claimRecords ids).2 },
      .waiting (.records (store.grid.claimRecords ids).1)) := by
  have hclaim := store.grid.sameUpTo_claimRecords ids
  refine ⟨fun debt hd => ?_, fun pending hm run he => ?_, Nat.le_of_eq hclaim.epoch_eq.symm,
    fun _ ha => hclaim.active_eq ▸ ha⟩
  · simp only [Progress.pendings, List.mem_singleton, exists_eq_left]
    cases debt with
    | record id => exact (Grid.asks_claimRecords hd).imp_left fun ha => ⟨ha, fun hp => hp⟩
    | page epoch =>
      exact Or.inl ⟨⟨hclaim.requests_eq ▸ hd.1, hd.2.trans hclaim.epoch_eq⟩, fun hp => hp⟩
    | bulk kind => exact Or.inl ⟨⟨hd.1, hclaim.requests_eq ▸ hd.2⟩, fun hp => hp⟩
  · simp only [Progress.pendings, List.mem_singleton] at hm
    subst hm
    cases he

variable {store} in
/-- An operation that starts answers for the debts it makes. -/
theorem begin_answers {operation : Operation} {result : Store × Progress}
    (h : store.Begins operation result) : Answers store.grid (fun _ => False) result := by
  have hload : ∀ (middle : Store) facet ids size, store.grid.Keeps middle.grid →
      Answers store.grid (fun _ => False) (middle.load facet ids size) :=
    fun middle facet ids size h =>
      answers_nextChunk _ _ (h.trans (middle.grid.keeps_claimAll facet ids))
  have hopen : ∀ (middle : Store) queries page, store.grid.Keeps middle.grid →
      Answers store.grid (fun _ => False) (middle.openQuery queries page .report) :=
    fun middle queries page h =>
      ((middle.answers_openQuery queries page .report).after_keeps h).mono
        fun _ (hp : False) => hp.elim
  cases h with
  | declined operation outcome hdeclines => exact answers_ended _ (.refl _) outcome
  | openQuery queries page => exact hopen store queries page (.refl _)
  | furtherPage page queries epoch grid hask =>
    obtain ⟨active, -, -, -, -, hasked, rfl⟩ := Grid.askFurther?_eq_some_iff.mp hask
    obtain ⟨rfl, rfl⟩ := Prod.mk.inj hasked
    exact Answers.mono (answers_askPage _ active.queries page store.grid.epoch .report rfl rfl
      (fun _ h => h) rfl (Nat.le_refl _)) fun _ (hp : False) => hp.elim
  | refill active hactive => exact hopen _ _ 0 (store.keeps_clear true)
  | submit => exact hopen _ _ 0 (store.keeps_clear false)
  | describe ids hsome => exact store.answers_describe ids
  | thumbnails ids chunk => exact hload store _ _ _ (.refl _)
  | image id hin => exact hload store _ _ _ (.refl _)
  | followScroll entered exited => exact hload _ _ _ _ (store.keeps_unload _ exited)
  | archive targets hbegin =>
    exact store.answers_bulk (keeps_mark _ _ false) rfl rfl (by decide)
  | delete targets hbegin => exact store.answers_bulk (.refl _) rfl rfl (by decide)
  | edit update targets hbegin => exact store.answers_bulk (.refl _) rfl rfl (by decide)
  | suggestCached texts hcached => exact answers_ended _ (store.keeps_offerCompletions _ _) _
  | suggestNone hcached hnone => exact answers_ended _ (store.keeps_offerCompletions _ _) _
  | suggestPage hcached hwords hlimit => exact store.answers_waiting (.refl _) rfl

/-- Keeping completions makes no debt. -/
theorem answers_rememberSuggestions (search : String) (completions : List String) :
    Answers store.grid (fun _ => False) (store.rememberSuggestions search completions) :=
  answers_ended _ ((store.remember search completions).keeps_offerCompletions search
    completions) _

/-- An operation that waits for neither a page nor metadata, and carries out no request,
answers for nothing. -/
theorem not_covers {pending : Pending} (hrun : pending.run? = none)
    (hdescribed : pending.described = []) (hrequest : pending.request? = none) (debt : Debt) :
    ¬pending.covers debt := by
  cases debt with
  | record id => simp [Pending.covers, hdescribed]
  | page epoch => simp [Pending.covers, hrun]
  | bulk kind => simp [Pending.covers, hrequest]

/-- An operation that carries out a request on the selection, and waits for neither a page nor
metadata, answers for the request alone. -/
theorem covers_bulk {pending : Pending} {kind : Request} {debt : Debt}
    (h : pending.covers debt) (hrun : pending.run? = none) (hdescribed : pending.described = [])
    (hrequest : pending.request? = some kind) : debt.concerns kind := by
  cases debt with
  | record id => simp [Pending.covers, hdescribed] at h
  | page epoch => simp [Pending.covers, hrun] at h
  | bulk other => exact (Option.some.inj (hrequest.symm.trans h)).symm

/-- A request on the selection that ends is paid, and what carried it out answered for nothing
else. -/
theorem answers_endBulk {pending : Pending} {kind : Request} (hrun : pending.run? = none)
    (hdescribed : pending.described = []) (hrequest : pending.request? = some kind)
    {state : RequestStatus} (hstate : state ≠ .loading) (outcome : Except Failure Outcome) :
    Answers store.grid pending.covers (store.moveRequest kind state, .done outcome) := by
  have hpays := store.pays_moveRequest kind hstate
  exact (answers_done hpays outcome).mono fun _ hc => covers_bulk hc hrun hdescribed hrequest

variable {store} in
/-- An operation that goes on pays what it answered for, or goes on answering for it. -/
theorem resume_answers {pending : Pending} {reply : Reply}
    (h : store.resume pending reply = some result)
    (hrun : ∀ run, pending.run? = some run → run.epoch = store.grid.epoch →
      store.grid.active.isSome) :
    Answers store.grid pending.covers result := by
  have hsucceeded : RequestStatus.succeeded ≠ .loading := by simp
  have hfailed : ∀ message, RequestStatus.failed message ≠ .loading := by simp
  cases resumes_of_eq_some h with
  | page run page => exact store.answers_mergePage run page (hrun run rfl)
  | pageLost run failure => exact store.answers_losePage run failure
  | pageRecords run added claimed records =>
    have hended := (store.storeRecords claimed records).2.answers_endPage run (.ok added)
      hsucceeded
    exact (hended.after_pays (store.pays_storeRecords claimed records)).mono
      fun _ => covers_pageRecords
  | pageRecordsLost run added claimed failure =>
    have hended := (store.giveUpRecords claimed).answers_endPage run (.error failure)
      (hfailed failure.message)
    exact (hended.after_pays (store.pays_giveUpRecords claimed)).mono
      fun _ => covers_pageRecords
  | records claimed records =>
    exact (answers_done (store.pays_storeRecords claimed records) _).mono fun _ => covers_records
  | recordsLost claimed failure =>
    exact (answers_done (store.pays_giveUpRecords claimed) _).mono fun _ => covers_records
  | contents load outcomes hlength =>
    have hsettled := keeps_settleClaims load.facet (store, load.summary)
      (load.chunk.zip outcomes)
    exact (answers_nextChunk _ _ hsettled).mono fun debt => not_covers rfl rfl rfl debt
  | archive items => exact store.answers_endBulk rfl rfl rfl hsucceeded _
  | archiveLost items failure =>
    exact store.answers_endBulk rfl rfl rfl (hfailed failure.message) _
  | delete targets =>
    exact (answers_endBulk _ rfl rfl rfl hsucceeded _).after_keeps
      (keeps_discard store.forget _)
  | deleteLost targets failure =>
    exact store.answers_endBulk rfl rfl rfl (hfailed failure.message) _
  | edit targets update =>
    have hcovers : ∀ debt, (Pending.edit targets update).covers debt →
        debt.concerns .metadataEdit := fun _ hc => covers_bulk hc rfl rfl rfl
    have hrebuilt := store.answers_rebuild (targets.map (·.1)) update
    exact hrebuilt.mono hcovers
  | editLost targets update failure =>
    exact store.answers_endBulk rfl rfl rfl (hfailed failure.message) _
  | suggestNone search request fragments page hempty =>
    exact (store.answers_rememberSuggestions search []).mono fun debt =>
      not_covers rfl rfl rfl debt
  | suggestPage search request fragments page hsome =>
    exact (store.answers_waiting (.refl _) rfl).mono fun debt => not_covers rfl rfl rfl debt
  | suggestPageLost search request fragments failure =>
    exact (store.answers_ended (.refl _) _).mono fun debt => not_covers rfl rfl rfl debt
  | suggestRecords search refs fragments records =>
    exact (store.answers_rememberSuggestions search _).mono fun debt =>
      not_covers rfl rfl rfl debt
  | suggestRecordsLost search refs fragments failure =>
    exact (store.answers_ended (.refl _) _).mono fun debt => not_covers rfl rfl rfl debt

end Store

namespace Service

/-- Every debt has an operation that answers for it, and no page is waited for beyond the
current epoch, or in it without a query. -/
structure Covered (service : Service) : Prop where
  /-- Every debt is answered for. -/
  debts : ∀ debt, service.store.grid.owes debt →
    ∃ pending ∈ service.waiting, pending.covers debt
  /-- Pages of the epoch have a query. -/
  runs : ∀ pending ∈ service.waiting, ∀ run, pending.run? = some run →
    run.epoch ≤ service.store.grid.epoch ∧
      (run.epoch = service.store.grid.epoch → service.store.grid.active.isSome)

theorem covered_fresh (config : Config) (draw : Nat → Uuid) : (fresh config draw).Covered where
  debts debt h := by
    cases debt with
    | record id => cases h
    | page epoch => cases h.1
    | bulk kind => cases kind <;> cases h.2
  runs _ hm := by cases hm

/-- Where the operations that go on waiting answer for what was not paid, all is covered. -/
theorem Covered.answered {service : Service} (h : service.Covered) {others : List Pending}
    {paid : Debt → Prop} {result : Store × Progress}
    (hanswers : Store.Answers service.store.grid paid result)
    (hothers : ∀ pending ∈ service.waiting,
      pending ∈ others ∨ ∀ debt, pending.covers debt → paid debt)
    (hsub : ∀ pending ∈ others, pending ∈ service.waiting) :
    Covered ⟨result.1, result.2.pendings ++ others⟩ where
  debts debt hd := by
    rcases hanswers.owes debt hd with ⟨hbefore, hnot⟩ | ⟨pending, hm, hcovers⟩
    · obtain ⟨pending, hm, hcovers⟩ := h.debts debt hbefore
      rcases hothers pending hm with hother | hpaid
      · exact ⟨pending, List.mem_append_right _ hother, hcovers⟩
      · exact absurd (hpaid debt hcovers) hnot
    · exact ⟨pending, List.mem_append_left _ hm, hcovers⟩
  runs pending hm run he := by
    rcases List.mem_append.mp hm with hnext | hother
    · obtain ⟨hepoch, hactive⟩ := hanswers.runs pending hnext run he
      exact ⟨Nat.le_of_eq hepoch, fun _ => hactive⟩
    · obtain ⟨hle, hactive⟩ := h.runs pending (hsub pending hother) run he
      have hepoch := hanswers.epoch
      refine ⟨Nat.le_trans hle hepoch, fun hsame => ?_⟩
      -- The run is of the epoch now, so the epoch did not change.
      dsimp only at hsame
      exact hanswers.active (by omega) (hactive (by omega))

/-- Every turn leaves every debt answered for. -/
theorem covered_turn (service : Service) (turn : Turn) (h : service.Covered) :
    (service.turn turn).Covered := by
  cases turn with
  | command command =>
    have hanswers := Store.answers_ended _ (service.store.keeps_obey command) (.ok (.done true))
    exact h.answered hanswers (fun _ hm => Or.inl hm) fun _ hm => hm
  | start operation =>
    exact h.answered (Store.begin_answers (service.store.begins operation)) (fun _ hm => Or.inl hm)
      fun _ hm => hm
  | answer position reply =>
    simp only [Service.turn]
    split
    · exact h
    · rename_i pending hpending
      split
      · exact h
      · rename_i store progress hresume
        obtain ⟨hlt, rfl⟩ := List.getElem?_eq_some_iff.mp hpending
        have hperm := List.getElem_cons_eraseIdx_perm hlt
        have hm : service.waiting[position] ∈ service.waiting := List.getElem_mem hlt
        have hanswers := Store.resume_answers hresume fun run he => (h.runs _ hm run he).2
        refine h.answered hanswers (fun other ho => ?_) fun other ho =>
          hperm.mem_iff.mp (List.mem_cons_of_mem _ ho)
        rcases List.mem_cons.mp (hperm.mem_iff.mpr ho) with rfl | ho
        · exact Or.inr fun _ hc => hc
        · exact Or.inl ho

theorem covered_run (config : Config) (draw : Nat → Uuid) (turns : List Turn) :
    ((fresh config draw).run turns).Covered :=
  run_keeps covered_turn (covered_fresh config draw) turns

/-- A claim that is to be settled is a target of a load that waits. -/
theorem mem_targets {service : Service} {facet : ByteFacet} {claim : Claim}
    (h : (facet, claim) ∈ service.targets) :
    ∃ load, .contents load ∈ service.waiting ∧ load.facet = facet ∧
      ∃ target ∈ load.chunk ++ load.rest, target.1 = claim := by
  obtain ⟨pending, hm, htarget⟩ := List.mem_flatMap.mp h
  cases pending with
  | contents load =>
    obtain ⟨target, ht, he⟩ := List.mem_map.mp htarget
    obtain ⟨hfacet, hclaim⟩ := Prod.ext_iff.mp he
    exact ⟨load, hm, hfacet, target, ht, hclaim⟩
  | _ => cases htarget

/-- Nothing stays under way for good. A slot that waits does so for a target of a load that
waits, metadata that is asked for is that of an id which a waiting operation claimed, a query
that loads has a page run of its epoch, and a request on the selection that runs has its
operation. So nothing is under way once no operation waits. -/
theorem loading_answered_for (config : Config) (draw : Nat → Uuid) (turns : List Turn) :
    let service := (fresh config draw).run turns
    let grid := service.store.grid
    (∀ id facet ticket, grid.slotAt id facet = .pending ticket →
      ∃ load, .contents load ∈ service.waiting ∧ load.facet = facet ∧
        ∃ target ∈ load.chunk ++ load.rest, target.1 = ⟨id, ticket⟩) ∧
    (∀ id, grid.metadata? id = some .pending →
      ∃ pending ∈ service.waiting, id ∈ pending.described) ∧
    (grid.requests.get .query = .loading →
      ∃ pending ∈ service.waiting, ∃ run, pending.run? = some run ∧ run.epoch = grid.epoch) ∧
    (∀ kind, kind ≠ .query → grid.requests.get kind = .loading →
      ∃ pending ∈ service.waiting, pending.request? = some kind) ∧
    (service.waiting = [] →
      (∀ id facet ticket, grid.slotAt id facet ≠ .pending ticket) ∧
      (∀ id, grid.metadata? id ≠ some .pending) ∧
      ∀ kind, grid.requests.get kind ≠ .loading) := by
  intro service grid
  have htracked : service.Tracked := tracked_run (tracked_fresh config draw) turns
  have hcovered : service.Covered := covered_run config draw turns
  have hslot : ∀ id facet ticket, grid.slotAt id facet = .pending ticket →
      ∃ load, .contents load ∈ service.waiting ∧ load.facet = facet ∧
        ∃ target ∈ load.chunk ++ load.rest, target.1 = ⟨id, ticket⟩ :=
    fun id facet ticket h => mem_targets (htracked.pending id facet ticket h)
  have hquery : grid.requests.get .query = .loading →
      ∃ pending ∈ service.waiting, ∃ run, pending.run? = some run ∧ run.epoch = grid.epoch :=
    fun h => hcovered.debts (.page grid.epoch) ⟨h, rfl⟩
  have hbulk : ∀ kind, kind ≠ .query → grid.requests.get kind = .loading →
      ∃ pending ∈ service.waiting, pending.request? = some kind :=
    fun kind hne h => hcovered.debts (.bulk kind) ⟨hne, h⟩
  refine ⟨hslot, fun id h => hcovered.debts (.record id) h, hquery, hbulk, fun hnone => ?_⟩
  have hnowhere : ∀ pending, pending ∉ service.waiting := by
    simp [hnone]
  refine ⟨fun id facet ticket h => ?_, fun id h => ?_, fun kind h => ?_⟩
  · obtain ⟨load, hm, -⟩ := hslot id facet ticket h
    exact hnowhere _ hm
  · obtain ⟨pending, hm, -⟩ := hcovered.debts (.record id) h
    exact hnowhere _ hm
  · by_cases hkind : kind = .query
    · obtain ⟨pending, hm, -⟩ := hquery (hkind ▸ h)
      exact hnowhere _ hm
    · obtain ⟨pending, hm, -⟩ := hbulk kind hkind h
      exact hnowhere _ hm

end Service

end MediaGrid
